import TestRig.Build.Pool

/-!
Worker pools keep their contract under every schedule. `Moves` says once what each move can
do; `Inv` is what every state of a run satisfies, and `Inv.exec` carries it along any
schedule. From it:

* `started_nodup`, `calling_length_le`: no index is passed to the work function twice, and no
  more calls are in progress than the pool has workers;
* `started_perm_of_uncancelled`, `result_of_uncancelled`: a run that nobody cancelled and in
  which no call failed has, once every worker stopped, called every index exactly once and
  returns no error;
* `result_of_failure`: a run in which some call failed returns the error of one failed call;
* `mapped_of_uncancelled`, `mapped_of_failure`, `collected_eq`, `collected_of_uncancelled`:
  what mapping and collecting give back;
* `exec_length_le`, `exists_done`: no schedule is longer than the run's measure, and every
  run can be driven until every worker has stopped;
* `cancelled_run_skips_only_pooled`: a run the caller cancelled before it began calls nothing
  when it is a pool, but a run of one item is a plain call, made all the same.
-/

namespace TestRig.Build.Pool

/-! ### What one move does -/

/-- The moves of a run, one constructor for each way `step` succeeds. -/
inductive Moves (fail : Nat → Option String) : Pool → Move → Pool → Prop where
  | stop {p k} (hidle : p.idle = k + 1) (hready : p.ready = []) :
      Moves fail p .receive { p with idle := k, stopped := p.stopped + 1 }
  | take {p k i rest} (hidle : p.idle = k + 1) (hready : p.ready = i :: rest) :
      Moves fail p .receive { p with ready := rest, idle := k, holding := i :: p.holding }
  | skip {p i} (hi : i ∈ p.holding) (hc : (p.pooled && p.cancelled) = true) :
      Moves fail p (.begin i) { p with holding := p.holding.erase i, idle := p.idle + 1,
                                       skipped := p.skipped ++ [i] }
  | call {p i} (hi : i ∈ p.holding) (hc : (p.pooled && p.cancelled) = false) :
      Moves fail p (.begin i) { p with holding := p.holding.erase i, calling := i :: p.calling,
                                       started := p.started ++ [i] }
  | finish {p i} (hi : i ∈ p.calling) :
      Moves fail p (.finish i) { p with calling := p.calling.erase i, idle := p.idle + 1,
                                        finished := p.finished ++ [i],
                                        firstErr := p.firstErr <|> fail i }
  | cancel {p} (hc : p.parentCancelled = false) :
      Moves fail p .cancel { p with parentCancelled := true }

variable {fail : Nat → Option String} {p q : Pool} {m : Move}

/-- Each way a move can go is a step of the pool. -/
theorem Moves.step (h : Moves fail p m q) : p.step fail m = some q := by
  cases h with
  | stop hidle hready => simp [Pool.step, hidle, hready]
  | take hidle hready => simp [Pool.step, hidle, hready]
  | skip hi hc => simp [Pool.step, hi, hc]
  | call hi hc => simp [Pool.step, hi, hc]
  | finish hi => simp [Pool.step, hi]
  | cancel hc => simp [Pool.step, hc]

/-- A move that is possible goes one of the ways `Moves` lists. -/
theorem exists_moves (h : p.step fail m ≠ none) : ∃ q, Moves fail p m q := by
  cases m with
  | receive =>
    rcases hidle : p.idle with _ | k
    · simp [Pool.step, hidle] at h
    rcases hready : p.ready with _ | ⟨i, rest⟩
    · exact ⟨_, .stop hidle hready⟩
    · exact ⟨_, .take hidle hready⟩
  | begin i =>
    by_cases hi : i ∈ p.holding
    · cases hc : (p.pooled && p.cancelled)
      · exact ⟨_, .call hi hc⟩
      · exact ⟨_, .skip hi hc⟩
    · simp [Pool.step, hi] at h
  | finish i =>
    by_cases hi : i ∈ p.calling
    · exact ⟨_, .finish hi⟩
    · simp [Pool.step, hi] at h
  | cancel =>
    cases hc : p.parentCancelled
    · exact ⟨_, .cancel hc⟩
    · simp [Pool.step, hc] at h

theorem step_iff : p.step fail m = some q ↔ Moves fail p m q := by
  refine ⟨fun h => ?_, Moves.step⟩
  have hne : p.step fail m ≠ none := by
    rw [h]
    simp
  obtain ⟨q', hq'⟩ := exists_moves hne
  rw [hq'.step, Option.some.injEq] at h
  exact h ▸ hq'

/-! ### What each move keeps -/

/-- Only the caller cancels its own context. -/
theorem Moves.parentCancelled (h : Moves fail p m q) (hm : m ≠ .cancel) :
    q.parentCancelled = p.parentCancelled := by
  cases h with
  | cancel => exact absurd rfl hm
  | _ => rfl

/-- Cancellation is never undone, and a pool stays a pool. -/
theorem Moves.pooled_cancelled (h : Moves fail p m q) (hc : (p.pooled && p.cancelled) = true) :
    (q.pooled && q.cancelled) = true := by
  cases h with
  | finish => cases hf : p.firstErr <;> simp_all [cancelled]
  | cancel => simp_all [cancelled]
  | _ => exact hc

/-- A move keeps the number of workers. -/
theorem Moves.workers (h : Moves fail p m q) :
    q.idle + q.holding.length + q.calling.length + q.stopped =
      p.idle + p.holding.length + p.calling.length + p.stopped := by
  cases h with
  | stop hidle => simp only; omega
  | take hidle => simp only [List.length_cons]; omega
  | skip hi | call hi | finish hi =>
    have := List.length_pos_of_mem hi
    simp only [List.length_erase_of_mem hi, List.length_cons]
    omega
  | cancel => rfl

/-- Moving one occurrence of `i` out of a list that holds it keeps every count. -/
theorem count_erase_add {l : List Nat} {i : Nat} (hi : i ∈ l) (j : Nat) :
    (l.erase i).count j + [i].count j = l.count j := by
  have := List.count_pos_iff.mpr hi
  rw [List.count_erase, List.count_singleton]
  by_cases hij : i = j
  · subst hij
    simp only [beq_self_eq_true, if_true]
    omega
  · simp [hij]

/-- A move passes indices on from the channel to a worker, and from a worker to the started or
the skipped ones, and loses none. -/
theorem Moves.accounted (h : Moves fail p m q) :
    (q.started ++ q.holding ++ q.skipped ++ q.ready).Perm
      (p.started ++ p.holding ++ p.skipped ++ p.ready) := by
  refine List.perm_iff_count.mpr fun j => ?_
  cases h with
  | stop | finish | cancel => rfl
  | take _ hready =>
    simp only [hready, List.count_append, List.count_cons]
    omega
  | skip hi | call hi =>
    have := count_erase_add hi j
    simp only [List.count_append]
    omega

/-- Every started call has returned or is in progress, before a move and after it. -/
theorem Moves.returned (h : Moves fail p m q) (hp : (p.finished ++ p.calling).Perm p.started) :
    (q.finished ++ q.calling).Perm q.started := by
  have hp := List.perm_iff_count.mp hp
  refine List.perm_iff_count.mpr fun j => ?_
  have := hp j
  cases h with
  | stop | take | skip | cancel => exact this
  | call hi =>
    simp only [List.count_append, List.count_cons, List.count_nil] at this ⊢
    omega
  | finish hi =>
    have := count_erase_add hi j
    simp only [List.count_append] at *
    omega

/-- A stopped worker found the channel drained, and nothing refills it. -/
theorem Moves.drained (h : Moves fail p m q) (hp : 0 < p.stopped → p.ready = []) :
    0 < q.stopped → q.ready = [] := by
  cases h with
  | stop _ hready => exact fun _ => hready
  | take _ hready =>
    intro hs
    simp [hp hs] at hready
  | _ => exact hp

/-- Only a cancelled pool skips. -/
theorem Moves.skips (h : Moves fail p m q)
    (hp : p.skipped = [] ∨ (p.pooled && p.cancelled) = true) :
    q.skipped = [] ∨ (q.pooled && q.cancelled) = true := by
  rcases hp with hp | hp
  · cases h with
    | skip _ hc => exact .inr hc
    | _ => exact .inl hp
  · exact .inr (h.pooled_cancelled hp)

/-- The first error is the first failure among the calls that have returned. -/
theorem Moves.firstErr (h : Moves fail p m q) (hp : p.firstErr = p.finished.findSome? fail) :
    q.firstErr = q.finished.findSome? fail := by
  cases h with
  | finish => simp [List.findSome?_append, hp]
  | _ => exact hp

/-! ### The invariant of a run -/

/-- What every state of a run over `n` items with `k` workers satisfies: every worker is at one
point of its loop, a stopped worker found the channel drained, every index is exactly once in
the channel, held, skipped or started, every started call has returned or is in progress,
only a cancelled pool skips, and the first error is the first failure among the returned
calls. -/
structure Inv (fail : Nat → Option String) (k n : Nat) (p : Pool) : Prop where
  workers : p.idle + p.holding.length + p.calling.length + p.stopped = k
  drained : 0 < p.stopped → p.ready = []
  accounted : (p.started ++ p.holding ++ p.skipped ++ p.ready).Perm (List.range n)
  returned : (p.finished ++ p.calling).Perm p.started
  skips : p.skipped = [] ∨ (p.pooled && p.cancelled) = true
  firstErr : p.firstErr = p.finished.findSome? fail

theorem Inv.start (e : Executor) (n : Nat) : Inv fail (min e.workers n) n (e.pool n) where
  workers := by simp [Executor.pool]
  drained := by simp [Executor.pool]
  accounted := by simp [Executor.pool]
  returned := by simp [Executor.pool]
  skips := .inl rfl
  firstErr := rfl

theorem Inv.step (hinv : Inv fail k n p) (h : Moves fail p m q) : Inv fail k n q where
  workers := h.workers.trans hinv.workers
  drained := h.drained hinv.drained
  accounted := h.accounted.trans hinv.accounted
  returned := h.returned hinv.returned
  skips := h.skips hinv.skips
  firstErr := h.firstErr hinv.firstErr

/-- What every move of a schedule keeps, the run of the schedule keeps. -/
theorem exec_keeps {P : Pool → Prop} {ms : List Move}
    (hstep : ∀ p, ∀ m ∈ ms, ∀ q, P p → Moves fail p m q → P q)
    (h : p.exec fail ms = some q) (hp : P p) : P q := by
  induction ms generalizing p with
  | nil =>
    simp only [Pool.exec, Option.some.injEq] at h
    exact h ▸ hp
  | cons m ms ih =>
    simp only [Pool.exec, Option.bind_eq_some_iff] at h
    obtain ⟨p', hstep', hrest⟩ := h
    exact ih (fun p m hm => hstep p m (List.mem_cons_of_mem _ hm)) hrest
      (hstep _ _ List.mem_cons_self _ hp (step_iff.mp hstep'))

theorem Inv.exec {ms : List Move} (hinv : Inv fail k n p) (h : p.exec fail ms = some q) :
    Inv fail k n q :=
  exec_keeps (fun _ _ _ _ hp hmove => hp.step hmove) h hinv

/-! ### Progress and termination -/

theorem Moves.measure_lt (h : Moves fail p m q) : q.measure < p.measure := by
  cases h with
  | stop hidle | take hidle =>
    simp only [measure, List.length_cons, *]
    omega
  | skip hi | call hi | finish hi =>
    have := List.length_pos_of_mem hi
    simp only [measure, List.length_erase_of_mem hi, List.length_cons]
    omega
  | cancel hc =>
    simp [measure, hc]

/-- A schedule makes at most as many moves as the measure of the state it starts from. -/
theorem exec_length_le {ms : List Move} (h : p.exec fail ms = some q) :
    ms.length + q.measure ≤ p.measure := by
  induction ms generalizing p with
  | nil =>
    simp only [Pool.exec, Option.some.injEq] at h
    simp [h]
  | cons m ms ih =>
    simp only [Pool.exec, Option.bind_eq_some_iff] at h
    obtain ⟨p', hstep, hrest⟩ := h
    have := (step_iff.mp hstep).measure_lt
    have := ih hrest
    simp only [List.length_cons]
    omega

theorem done_iff : p.done = true ↔ p.idle = 0 ∧ p.holding = [] ∧ p.calling = [] := by
  simp [Pool.done, and_assoc]

/-- A worker that has not stopped can always move. -/
theorem exists_moves_of_not_done (hd : p.done = false) : ∃ m q, Moves fail p m q := by
  rcases hidle : p.idle with _ | k
  · rcases hholding : p.holding with _ | ⟨i, _⟩
    · rcases hcalling : p.calling with _ | ⟨i, _⟩
      · simp [Pool.done, hidle, hholding, hcalling] at hd
      · exact ⟨_, _, .finish (p := p) (i := i) (by simp [hcalling])⟩
    · cases hc : (p.pooled && p.cancelled)
      · exact ⟨_, _, .call (p := p) (i := i) (by simp [hholding]) hc⟩
      · exact ⟨_, _, .skip (p := p) (i := i) (by simp [hholding]) hc⟩
  · rcases hready : p.ready with _ | ⟨i, rest⟩
    · exact ⟨_, _, .stop hidle hready⟩
    · exact ⟨_, _, .take hidle hready⟩

/-- Every run can be driven on until every worker has stopped. -/
theorem exists_done (p : Pool) : ∃ ms q, p.exec fail ms = some q ∧ q.done = true := by
  cases hd : p.done
  · obtain ⟨m, p', hmove⟩ : ∃ m p', Moves fail p m p' := exists_moves_of_not_done hd
    obtain ⟨ms, q, hrun, hq⟩ := exists_done p'
    exact ⟨m :: ms, q, by simp [Pool.exec, hmove.step, hrun], hq⟩
  · exact ⟨[], p, rfl, hd⟩
termination_by p.measure
decreasing_by exact hmove.measure_lt

/-! ### Runs of an executor -/

section Runs

variable {e : Executor} {n : Nat} {ms : List Move}

theorem inv_of_exec (h : (e.pool n).exec fail ms = some p) : Inv fail (min e.workers n) n p :=
  (Inv.start e n).exec h

/-- Only the caller cancels its own context, so a schedule without `cancel` leaves it as it
was. -/
theorem parentCancelled_of_exec (h : p.exec fail ms = some q) (hms : Move.cancel ∉ ms) :
    q.parentCancelled = p.parentCancelled :=
  exec_keeps (P := fun r => r.parentCancelled = p.parentCancelled)
    (fun _ _ hm _ hp hmove => (hmove.parentCancelled fun hc => hms (hc ▸ hm)).trans hp) h rfl

/-- No index is passed to the work function twice. -/
theorem started_nodup (h : (e.pool n).exec fail ms = some p) : p.started.Nodup := by
  have hnd := (inv_of_exec h).accounted.nodup_iff.mpr List.nodup_range
  exact hnd.sublist (((List.sublist_append_left _ _).trans (List.sublist_append_left _ _)).trans
    (List.sublist_append_left _ _))

/-- No more calls are in progress at once than the pool has workers. -/
theorem calling_length_le (h : (e.pool n).exec fail ms = some p) :
    p.calling.length ≤ min e.workers n := by
  have := (inv_of_exec h).workers
  omega

theorem Inv.finished_mem (hinv : Inv fail k n p) {i : Nat} (hi : i ∈ p.finished) :
    i ∈ p.started :=
  hinv.returned.subset (List.mem_append_left _ hi)

/-- Once every worker has stopped the channel is drained: a pool of items has workers. -/
theorem Inv.ready_of_done (hinv : Inv fail (min e.workers n) n p) (hd : p.done = true) :
    p.ready = [] := by
  obtain ⟨hidle, hholding, hcalling⟩ := done_iff.mp hd
  rcases Nat.eq_zero_or_pos n with rfl | hn
  · have := hinv.accounted.length_eq
    simp only [List.length_append, List.length_range] at this
    exact List.eq_nil_of_length_eq_zero (by omega)
  · apply hinv.drained
    have hworkers := hinv.workers
    have hpos := e.workers_pos
    simp only [hidle, hholding, hcalling, List.length_nil] at hworkers
    omega

/-- Once every worker has stopped, every index was started or skipped, exactly once. -/
theorem Inv.done_accounted (hinv : Inv fail (min e.workers n) n p) (hd : p.done = true) :
    (p.started ++ p.skipped).Perm (List.range n) := by
  obtain ⟨_, hholding, _⟩ := done_iff.mp hd
  simpa [hinv.ready_of_done hd, hholding] using hinv.accounted

/-- Once every worker has stopped, every started call has returned. -/
theorem Inv.done_returned (hinv : Inv fail k n p) (hd : p.done = true) :
    p.finished.Perm p.started := by
  obtain ⟨_, _, hcalling⟩ := done_iff.mp hd
  simpa [hcalling] using hinv.returned

/-- Without a failed call among the started ones there is no first error. -/
theorem Inv.firstErr_eq_none (hinv : Inv fail k n p) (hok : ∀ i ∈ p.started, fail i = none) :
    p.firstErr = none := by
  rw [hinv.firstErr, List.findSome?_eq_none_iff]
  exact fun i hi => hok i (hinv.finished_mem hi)

/-- A run that nobody cancelled and in which no call failed has, once every worker stopped,
passed every index to the work function exactly once. -/
theorem started_perm_of_uncancelled (h : (e.pool n).exec fail ms = some p) (hd : p.done = true)
    (hms : Move.cancel ∉ ms) (hok : ∀ i ∈ p.started, fail i = none) :
    p.started.Perm (List.range n) := by
  have hinv := inv_of_exec h
  have hparent : p.parentCancelled = false := parentCancelled_of_exec h hms
  have hskipped : p.skipped = [] := by
    rcases hinv.skips with hs | hs
    · exact hs
    · simp [cancelled, hparent, hinv.firstErr_eq_none hok] at hs
  simpa [hskipped] using hinv.done_accounted hd

/-- Such a run returns no error. -/
theorem result_of_uncancelled (h : (e.pool n).exec fail ms = some p) (hms : Move.cancel ∉ ms)
    (hok : ∀ i ∈ p.started, fail i = none) : p.result = none := by
  have hparent : p.parentCancelled = false := parentCancelled_of_exec h hms
  simp [Pool.result, (inv_of_exec h).firstErr_eq_none hok, hparent]

/-- A run in which some call failed returns, once every worker stopped, the error of one
failed call: the first to return. -/
theorem result_of_failure (h : (e.pool n).exec fail ms = some p) (hd : p.done = true)
    (hfail : ∃ i ∈ p.started, (fail i).isSome) :
    ∃ i ∈ p.started, (fail i).isSome ∧ p.result = fail i := by
  have hinv := inv_of_exec h
  obtain ⟨i, hi, hfi⟩ := hfail
  have hsome : (p.finished.findSome? fail).isSome := List.findSome?_isSome_iff.mpr
    ⟨i, (hinv.done_returned hd).mem_iff.mpr hi, hfi⟩
  obtain ⟨err, herr⟩ := Option.isSome_iff_exists.mp hsome
  obtain ⟨j, hj, hfj⟩ := List.exists_of_findSome?_eq_some herr
  refine ⟨j, hinv.finished_mem hj, by simp [hfj], ?_⟩
  simp [Pool.result, hinv.firstErr, herr, hfj]

/-- Two workers over three items, the call on item 1 failing first: the worker that takes item
2 after the failure skips it, and the run returns the failure. -/
example :
    (((Executor.new 2).pool 3).exec (fun i => if i = 1 then some "boom" else none)
      [.receive, .receive, .begin 1, .begin 0, .finish 1, .receive, .begin 2, .finish 0,
        .receive, .receive]).map (fun p => (p.done, p.result, p.started, p.skipped)) =
      some (true, some "boom", [1, 0], [2]) := by
  decide

end Runs

/-! ### A run whose caller cancelled it before it began -/

section Cancelled

variable {ms : List Move}

/-- A move keeps whether the run is a pool, and keeps a cancelled run cancelled. -/
theorem Moves.pooled_parentCancelled (h : Moves fail p m q) :
    q.pooled = p.pooled ∧ (p.parentCancelled = true → q.parentCancelled = true) := by
  cases h <;> simp

/-- A cancelled pool calls nothing more: every index a worker begins is skipped. -/
theorem Moves.started_of_cancelled (h : Moves fail p m q)
    (hc : (p.pooled && p.cancelled) = true) : q.started = p.started := by
  cases h with
  | call _ hc' => simp [hc] at hc'
  | _ => rfl

variable {e : Executor} {n : Nat}

/-- The first move of a run cancels it, and what the run then is. -/
theorem exec_cancel_cons (h : (e.pool n).exec fail (.cancel :: ms) = some p) :
    ({ e.pool n with parentCancelled := true } : Pool).exec fail ms = some p := by
  simpa [Pool.exec, Pool.step, Executor.pool] using h

/-- A run that the caller cancelled before it began stays cancelled, and is a pool exactly
when it has two items or more. -/
theorem cancelled_of_exec (h : (e.pool n).exec fail (.cancel :: ms) = some p) :
    p.pooled = decide (2 ≤ n) ∧ p.parentCancelled = true :=
  exec_keeps (P := fun q => q.pooled = decide (2 ≤ n) ∧ q.parentCancelled = true)
    (fun _ _ _ _ hp hmove => ⟨hmove.pooled_parentCancelled.1.trans hp.1,
      hmove.pooled_parentCancelled.2 hp.2⟩) (exec_cancel_cons h) ⟨rfl, rfl⟩

/-- A run of two items or more that the caller cancelled before it began passes no index to
the work function and returns the cancellation. -/
theorem cancelled_pool_calls_nothing (h : (e.pool n).exec fail (.cancel :: ms) = some p)
    (hn : 2 ≤ n) : p.started = [] ∧ p.result = some canceledText := by
  -- a cancelled pool skips every index its workers take
  have hstarted : p.started = [] :=
    (exec_keeps (P := fun q => (q.pooled && q.cancelled) = true ∧ q.started = [])
      (fun _ _ _ _ hp hmove => ⟨hmove.pooled_cancelled hp.1, (hmove.started_of_cancelled hp.1).trans hp.2⟩)
      (exec_cancel_cons h) ⟨by simp [Executor.pool, cancelled, hn], rfl⟩).2
  have hinv := inv_of_exec h
  have hfirst : p.firstErr = none := hinv.firstErr_eq_none (by simp [hstarted])
  obtain ⟨hpooled, hparent⟩ := cancelled_of_exec h
  exact ⟨hstarted, by simp [Pool.result, hfirst, hpooled, hparent, hn]⟩

/-- A run of one item is a plain call, cancelled or not: once it has returned, it has passed its
index to the work function and returns that call's error. -/
theorem cancelled_inline_run_calls (h : (e.pool 1).exec fail (.cancel :: ms) = some p)
    (hd : p.done = true) : p.started = [0] ∧ p.result = fail 0 := by
  have hinv := inv_of_exec h
  obtain ⟨hpooled, -⟩ := cancelled_of_exec h
  simp only [Nat.not_succ_le_self, decide_false] at hpooled
  -- a run that is not a pool skips nothing, so its one index was started
  have hskipped : p.skipped = [] := by simpa [hpooled] using hinv.skips
  have hstarted : p.started = [0] := by
    simpa [hskipped] using hinv.done_accounted hd
  have hfinished : p.finished = [0] := by
    simpa [hstarted] using hinv.done_returned hd
  exact ⟨hstarted, by simp [Pool.result, hinv.firstErr, hfinished, hpooled]⟩

end Cancelled

/-- A run that the caller cancelled before it began. With two items or more it is a pool, which
passes no index to the work function and returns the cancellation. With one item it is a plain
call, which the cancellation does not stop: once it has returned, its index was passed to the
work function, and the run returns that call's error. -/
theorem cancelled_run_skips_only_pooled (e : Executor) (n : Nat) (fail : Nat → Option String)
    (ms : List Move) (p : Pool) (h : (e.pool n).exec fail (.cancel :: ms) = some p) :
    (2 ≤ n → p.started = [] ∧ p.result = some canceledText) ∧
    (n = 1 → p.done = true → p.started = [0] ∧ p.result = fail 0) := by
  refine ⟨cancelled_pool_calls_nothing h, ?_⟩
  rintro rfl
  exact cancelled_inline_run_calls h

/-- One item, the run cancelled before it began: the item is still called, and the run returns
no error. -/
theorem cancelled_one_item_run_calls_it :
    ∃ p, ((Executor.new 1).pool 1).exec (fun _ => none)
        [.cancel, .receive, .begin 0, .finish 0, .receive] = some p ∧
      p.done = true ∧ p.started = [0] ∧ p.result = none :=
  ⟨_, rfl, rfl, (cancelled_run_skips_only_pooled (Executor.new 1) 1 (fun _ => none)
    [.receive, .begin 0, .finish 0, .receive] _ rfl).2 rfl rfl⟩

/-! ### Mapping and collecting -/

section Wrappers

variable {α β : Type} [Inhabited α] {e : Executor} {ms : List Move} {items : List β}
  {fn : β → Reply α}

/-- A mapping that nobody cancelled and in which no call failed gives, once every worker
stopped, the value of every item in item order. -/
theorem mapped_of_uncancelled (h : (e.pool items.length).exec (mapFail items fn) ms = some p)
    (hd : p.done = true) (hms : Move.cancel ∉ ms)
    (hok : ∀ i ∈ p.started, mapFail items fn i = none) :
    ∃ vs, p.mapped items fn = .ok vs ∧ items.map fn = vs.map (.returned · none) := by
  have hperm := started_perm_of_uncancelled h hd hms hok
  have hstarted : ∀ i < items.length, i ∈ p.started := fun i hi =>
    hperm.mem_iff.mpr (List.mem_range.mpr hi)
  refine ⟨items.mapIdx fun i x =>
      if i ∈ p.finished then ((fn x).stored?).getD default else default,
    by simp [mapped, result_of_uncancelled h hms hok], List.ext_getElem? fun i => ?_⟩
  simp only [List.getElem?_map, List.getElem?_mapIdx]
  cases hx : items[i]? with
  | none => rfl
  | some x =>
    have hi : i < items.length := (List.getElem?_eq_some_iff.mp hx).1
    have hfin : i ∈ p.finished := ((inv_of_exec h).done_returned hd).mem_iff.mpr (hstarted i hi)
    have hfx : mapFail items fn i = none := hok i (hstarted i hi)
    simp only [mapFail, hx, Option.bind_some] at hfx
    obtain ⟨v, hv⟩ := Reply.error?_eq_none.mp hfx
    simp [hfin, hv, Reply.stored?]

/-- A mapping in which some call failed gives no values, only the error of one failed call. -/
theorem mapped_of_failure (h : (e.pool items.length).exec (mapFail items fn) ms = some p)
    (hd : p.done = true) (hfail : ∃ i ∈ p.started, (mapFail items fn i).isSome) :
    ∃ i ∈ p.started, ∃ err,
      mapFail items fn i = some err ∧ p.mapped items fn = .error err := by
  obtain ⟨i, hi, hfi, hres⟩ := result_of_failure h hd hfail
  obtain ⟨err, herr⟩ := Option.isSome_iff_exists.mp hfi
  exact ⟨i, hi, err, herr, by simp [mapped, hres, herr]⟩

/-- Collecting gives every item, once every worker stopped, the outcome of its own call, or
`notRunText` when it was skipped. -/
theorem collected_eq (h : (e.pool items.length).exec (fun _ => none) ms = some p)
    (hd : p.done = true) {i : Nat} {x : β} (hx : items[i]? = some x) :
    (i ∈ p.started ∧ (p.collected items fn)[i]? = some ((fn x).outcome i)) ∨
      (i ∈ p.skipped ∧
        (p.collected items fn)[i]? = some ⟨i, default, some notRunText⟩) := by
  have hinv := inv_of_exec h
  have hacc := hinv.done_accounted hd
  have hi : i < items.length := (List.getElem?_eq_some_iff.mp hx).1
  rcases List.mem_append.mp (hacc.mem_iff.mpr (List.mem_range.mpr hi)) with hs | hs
  · have hfin : i ∈ p.finished := (hinv.done_returned hd).mem_iff.mpr hs
    exact .inl ⟨hs, by simp [collected, List.getElem?_mapIdx, hx, hfin]⟩
  · -- a skipped index was never started, so its call never returned
    have hnd : (p.started ++ p.skipped).Nodup := hacc.nodup_iff.mpr List.nodup_range
    have hnf : i ∉ p.finished := fun hf =>
      (List.nodup_append.mp hnd).2.2 i (hinv.finished_mem hf) i hs rfl
    exact .inr ⟨hs, by simp [collected, List.getElem?_mapIdx, hx, hnf]⟩

/-- Collecting without the caller's cancellation gives every item its own outcome, whichever
calls fail or panic. -/
theorem collected_of_uncancelled (h : (e.pool items.length).exec (fun _ => none) ms = some p)
    (hd : p.done = true) (hms : Move.cancel ∉ ms) :
    p.collected items fn = items.mapIdx fun i x => (fn x).outcome i := by
  have hperm := started_perm_of_uncancelled h hd hms fun _ _ => rfl
  refine List.ext_getElem? fun i => ?_
  simp only [collected, List.getElem?_mapIdx]
  cases hx : items[i]? with
  | none => rfl
  | some x =>
    have hi : i < items.length := (List.getElem?_eq_some_iff.mp hx).1
    have hfin : i ∈ p.finished := ((inv_of_exec h).done_returned hd).mem_iff.mpr
      (hperm.mem_iff.mpr (List.mem_range.mpr hi))
    simp [hfin]

end Wrappers

/-- Every schedule of an executor's runs keeps the pool's contract. A run never passes an index
to the work function twice, never has more calls in progress than its workers, is at most
`3 n + min w n + 1` moves long and can always be driven until every worker stops. Once they
have, a run that nobody cancelled and in which no call failed has called every index exactly
once and returns no error, and a run in which some call failed returns the error of one failed
call. Mapping then gives every item's value in item order, or only an error; collecting gives
every item its own outcome, or `notRunText` for a skipped one, and its own outcome for all when
nobody cancelled. -/
theorem schedules_keep_pool_contract (e : Executor) :
    (∀ (n : Nat) (fail : Nat → Option String) (ms : List Move) (p : Pool),
      (e.pool n).exec fail ms = some p →
        p.started.Nodup ∧ p.calling.length ≤ min e.workers n ∧
        ms.length ≤ 3 * n + min e.workers n + 1 ∧
        (∃ ms' q, p.exec fail ms' = some q ∧ q.done = true) ∧
        (p.done = true → Move.cancel ∉ ms → (∀ i ∈ p.started, fail i = none) →
          p.started.Perm (List.range n) ∧ p.result = none) ∧
        (p.done = true → (∃ i ∈ p.started, (fail i).isSome) →
          ∃ i ∈ p.started, (fail i).isSome ∧ p.result = fail i)) ∧
    (∀ {α β : Type} [Inhabited α] (items : List β) (fn : β → Reply α) (ms : List Move)
        (p : Pool), (e.pool items.length).exec (mapFail items fn) ms = some p → p.done = true →
        (Move.cancel ∉ ms → (∀ i ∈ p.started, mapFail items fn i = none) →
          ∃ vs, p.mapped items fn = .ok vs ∧ items.map fn = vs.map (.returned · none)) ∧
        ((∃ i ∈ p.started, (mapFail items fn i).isSome) →
          ∃ i ∈ p.started, ∃ err,
            mapFail items fn i = some err ∧ p.mapped items fn = .error err)) ∧
    (∀ {α β : Type} [Inhabited α] (items : List β) (fn : β → Reply α) (ms : List Move)
        (p : Pool), (e.pool items.length).exec (fun _ => none) ms = some p → p.done = true →
        (∀ i x, items[i]? = some x →
          (i ∈ p.started ∧ (p.collected items fn)[i]? = some ((fn x).outcome i)) ∨
            (i ∈ p.skipped ∧
              (p.collected items fn)[i]? = some ⟨i, default, some notRunText⟩)) ∧
        (Move.cancel ∉ ms →
          p.collected items fn = items.mapIdx fun i x => (fn x).outcome i)) := by
  refine ⟨fun n fail ms p h => ?_, fun items fn ms p h hd => ?_, fun items fn ms p h hd => ?_⟩
  · have hlen : ms.length ≤ (e.pool n).measure := by
      have := exec_length_le h
      omega
    refine ⟨started_nodup h, calling_length_le h, ?_, exists_done p,
      fun hd hms hok =>
        ⟨started_perm_of_uncancelled h hd hms hok, result_of_uncancelled h hms hok⟩,
      result_of_failure h⟩
    simpa [measure, Executor.pool] using hlen
  · exact ⟨mapped_of_uncancelled h hd, mapped_of_failure h hd⟩
  · exact ⟨fun i x hx => collected_eq h hd hx, collected_of_uncancelled h hd⟩

end TestRig.Build.Pool
