/-!
Worker pools: how a stage hands its `n` items to a bounded number of workers. The indices
`0 … n-1` wait in a channel in order. Each of `min w n` workers takes the next index, skips
it when the run has been cancelled, and otherwise calls the work function on it; it stops when
the channel is drained.
-/

namespace TestRig.Build

/-- What one call of a work function gives back: a value with an error or none, or a panic. -/
inductive Reply (α : Type) where
  | returned (value : α) (err : Option String)
  | panicked (report : String)
  deriving Repr, DecidableEq

/-- The isolated result of one item of `collected`. -/
structure ItemOutcome (α : Type) where
  index : Nat
  value : α
  err : Option String
  deriving Repr, DecidableEq

/-- The error of a panic in the call on item `i`, recovered. -/
def panicText (i : Nat) (report : String) : String :=
  "panic while processing item " ++ toString i ++ ": " ++ report

/-- The error of an item that was never run because the run was cancelled. -/
def notRunText : String := "item was not run"

/-- The error a run returns when the caller cancelled it and no call failed. -/
def canceledText : String := "context canceled"

namespace Reply

variable {α : Type}

def error? (i : Nat) : Reply α → Option String
  | .returned _ err => err
  | .panicked report => some (panicText i report)

/-- The value a call stores in its slot: only a call that returned without an error stores. -/
def stored? : Reply α → Option α
  | .returned v none => some v
  | _ => none

/-- The outcome of item `i`: what the call returned, or a zero value and the recovered panic. -/
def outcome [Inhabited α] (i : Nat) : Reply α → ItemOutcome α
  | .returned v err => ⟨i, v, err⟩
  | .panicked report => ⟨i, default, some (panicText i report)⟩

/-- A call ends without an error exactly when it returned a value and no error. -/
theorem error?_eq_none {r : Reply α} {i : Nat} :
    r.error? i = none ↔ ∃ v, r = .returned v none := by
  cases r <;> simp [error?]

end Reply

/-- One move of a run: a worker's step through its loop, or the caller's cancellation. -/
inductive Move where
  /-- An idle worker takes the next index, or stops when the channel is drained. -/
  | receive
  /-- The worker holding `i` checks the run's context and calls on `i`, or skips it. -/
  | begin (i : Nat)
  /-- The call on `i` returns and its worker goes back for the next index. -/
  | finish (i : Nat)
  | cancel
  deriving Repr, DecidableEq

structure Pool where
  /-- The indices still in the channel, in order. -/
  ready : List Nat
  idle : Nat
  /-- Indices taken by a worker that has not yet checked the context. -/
  holding : List Nat := []
  calling : List Nat := []
  stopped : Nat := 0
  /-- A pool was started: its workers check the context, and the result reports the caller's
  cancellation. A run of one item is a plain call. -/
  pooled : Bool
  parentCancelled : Bool := false
  /-- The error of the first call that failed; it also cancels the run. -/
  firstErr : Option String := none
  /-- The indices passed to the work function, in the order of the calls. -/
  started : List Nat := []
  /-- The indices whose calls have returned, in the order they returned. -/
  finished : List Nat := []
  /-- The indices taken after the run was cancelled, and never run. -/
  skipped : List Nat := []
  deriving Repr, DecidableEq

/-- An executor: a budget of workers, at least one. -/
structure Executor where
  workers : Nat
  workers_pos : 0 < workers

namespace Executor

/-- An executor with the given budget; a budget below one means one worker. -/
def new (w : Int) : Executor := ⟨max 1 w.toNat, by omega⟩

/-- The run of `n` items: all of them in the channel and `min w n` idle workers. -/
def pool (e : Executor) (n : Nat) : Pool where
  ready := List.range n
  idle := min e.workers n
  pooled := 2 ≤ n

end Executor

namespace Pool

/-- The run's context is cancelled: by the caller, or by a call that failed. -/
def cancelled (p : Pool) : Bool := p.parentCancelled || p.firstErr.isSome

/-- Every worker has stopped, so the run returns. -/
def done (p : Pool) : Bool := p.idle == 0 && p.holding.isEmpty && p.calling.isEmpty

/-- One move, where `fail i` is the error the call on `i` ends with; `none` when the move is not
possible. -/
def step (fail : Nat → Option String) (p : Pool) : Move → Option Pool
  | .receive =>
    match p.idle, p.ready with
    | 0, _ => none
    | k + 1, [] => some { p with idle := k, stopped := p.stopped + 1 }
    | k + 1, i :: rest => some { p with ready := rest, idle := k, holding := i :: p.holding }
  | .begin i =>
    if i ∈ p.holding then
      if p.pooled && p.cancelled then
        some { p with holding := p.holding.erase i, idle := p.idle + 1,
                      skipped := p.skipped ++ [i] }
      else
        some { p with holding := p.holding.erase i, calling := i :: p.calling,
                      started := p.started ++ [i] }
    else none
  | .finish i =>
    if i ∈ p.calling then
      -- the first failure is kept, and every failure cancels the run
      some { p with calling := p.calling.erase i, idle := p.idle + 1,
                    finished := p.finished ++ [i], firstErr := p.firstErr <|> fail i }
    else none
  | .cancel => if p.parentCancelled then none else some { p with parentCancelled := true }

/-- Runs a schedule; `none` when one of its moves is not possible where it comes. -/
def exec (fail : Nat → Option String) : Pool → List Move → Option Pool
  | p, [] => some p
  | p, m :: ms => (p.step fail m).bind fun q => q.exec fail ms

/-- The moves a run can still make at most: three for each index in the channel (taken, begun,
returned), three and two for one held and one being called, one for each idle worker (it
stops), and one for the caller's cancellation. -/
def measure (p : Pool) : Nat :=
  3 * p.ready.length + p.idle + 3 * p.holding.length + 2 * p.calling.length +
    if p.parentCancelled then 0 else 1

/-- What the run returns once every worker has stopped. -/
def result (p : Pool) : Option String :=
  p.firstErr <|> if p.pooled && p.parentCancelled then some canceledText else none

/-! ### The two wrappers -/

variable {α β : Type}

/-- The error the call on item `i` of a mapping ends with: the work function's error, or its
panic. -/
def mapFail (items : List β) (fn : β → Reply α) (i : Nat) : Option String :=
  items[i]?.bind fun x => (fn x).error? i

/-- What mapping `fn` over `items` gives once the run `p` (with `mapFail`) has stopped. -/
def mapped [Inhabited α] (items : List β) (fn : β → Reply α) (p : Pool) :
    Except String (List α) :=
  match p.result with
  | some err => .error err
  | none => .ok (items.mapIdx fun i x => if i ∈ p.finished then ((fn x).stored?).getD default
      else default)

/-- What collecting `fn` over `items` gives once the run `p` has stopped; its calls never fail
the run. -/
def collected [Inhabited α] (items : List β) (fn : β → Reply α) (p : Pool) :
    List (ItemOutcome α) :=
  items.mapIdx fun i x => if i ∈ p.finished then (fn x).outcome i
    else ⟨i, default, some notRunText⟩

end Pool

end TestRig.Build
