import TestRig.Build.Session
import TestRig.Build.Pool

/-!
A stage's items on a worker pool. The pool moves as `Pool.step` says: workers take the indices
in order, begin them unless the run was cancelled, and return from their calls. Here a call is
a step of the build, which runs whole when it returns, so the calls of a stage run one after
another in the order they return.

A plan gives the moves a stage's pool makes. A move the pool cannot make is passed over; when
the moves end, the pool goes on by itself until every worker has stopped, a call in progress
returning first, then a held index being begun, then an idle worker taking the next. A pool
that goes on by itself from its start calls its items one at a time, in order. A timed plan
makes the moves the pool makes in time when each call takes as long as its tools take from
the session the stage starts in.
-/

namespace TestRig.Build

/-- How a stage's pool moves: the moves given, after which it goes on by itself; or in time. -/
inductive Plan where
  | given (ms : List Move)
  | timed
  deriving Inhabited

/-- For each stage, by name, how its pool moves. -/
def Schedule := String → Plan

/-- Every pool goes on by itself from its start. -/
def Schedule.inOrder : Schedule := fun _ => .given []

/-- Every pool moves in time. -/
def Schedule.timed : Schedule := fun _ => .timed

def failureOf : Except Fault α → Option Fault
  | .ok _ => none
  | .error e => some e

/-- What a call gives its pool: the text of its failure, which cancels the run. -/
def failText (r : Except Fault α) : Option String := (failureOf r).map Fault.message

/-- A pool whose calls are steps of the build, with the outcome of each call that has returned,
in the order they returned. -/
structure Dispatch (α : Type) where
  pool : Pool
  outcomes : List (Nat × Except Fault α) := []

/-- The move a pool makes by itself: a call returns, else a held index is begun, else an idle
worker goes to the channel; none once every worker has stopped. -/
def Pool.nextMove (p : Pool) : Option Move :=
  match p.calling, p.holding with
  | i :: _, _ => some (.finish i)
  | [], i :: _ => some (.begin i)
  | [], [] => if p.idle = 0 then none else some .receive

namespace Dispatch

variable {α : Type} (call : Nat → BuildM α)

/-- One move. The call on an index runs when it returns. A move the pool cannot make is passed
over, and so is the caller's cancellation: only an interrupt of the whole build could make it. -/
def move (d : Dispatch α) : Move → BuildM (Dispatch α)
  | .finish i =>
    if i ∈ d.pool.calling then do
      let r ← BuildM.attempt (call i)
      return ⟨(d.pool.step (fun _ => failText r) (.finish i)).getD d.pool, d.outcomes ++ [(i, r)]⟩
    else pure d
  | .cancel => pure d
  | m => pure { d with pool := (d.pool.step (fun _ => none) m).getD d.pool }

def moves : Dispatch α → List Move → BuildM (Dispatch α)
  | d, [] => pure d
  | d, m :: ms => do moves (← d.move call m) ms

/-- The pool goes on by itself, for at most `fuel` moves. -/
def drive : Nat → Dispatch α → BuildM (Dispatch α)
  | 0, d => pure d
  | fuel + 1, d =>
    match d.pool.nextMove with
    | none => pure d
    | some m => do drive fuel (← d.move call m)

end Dispatch

/-- A pool's run in time: the time now, and when each call in progress returns, in the order
the calls began. -/
structure Timeline where
  pool : Pool
  now : Nat := 0
  returns : List (Nat × Nat) := []

namespace Timeline

/-- The call in progress that returns first; of calls returning together, the first begun. -/
def firstReturn (t : Timeline) : Option (Nat × Nat) :=
  t.returns.foldl (fun best r => match best with
    | some b => if r.2 < b.2 then some r else some b
    | none => some r) none

/-- The next move in time: a held index is begun, else an idle worker goes to the channel, else
the call that returns first returns. -/
def next (t : Timeline) : Option Move :=
  match t.pool.holding with
  | i :: _ => some (.begin i)
  | [] => if t.pool.idle ≠ 0 then some .receive else t.firstReturn.map fun r => .finish r.1

/-- Makes a move, where the call on `i` takes `took i` and fails with `fail i`. -/
def advance (took : Nat → Nat) (fail : Nat → Option String) (t : Timeline) (m : Move) : Timeline :=
  let pool := (t.pool.step fail m).getD t.pool
  match m with
  | .begin i => if i ∈ pool.calling then { t with pool, returns := t.returns ++ [(i, t.now + took i)] }
    else { t with pool }
  | .finish i => { pool, now := ((t.returns.lookup i).getD t.now), returns := t.returns.filter (·.1 != i) }
  | _ => { t with pool }

/-- The moves of a run in time, for at most `fuel` moves. -/
def moves (took : Nat → Nat) (fail : Nat → Option String) : Nat → Timeline → List Move
  | 0, _ => []
  | fuel + 1, t => match t.next with
    | some m => m :: moves took fail fuel (t.advance took fail m)
    | none => []

end Timeline

/-- How long a step of the build takes from a session, and the text of its failure. -/
def probe (x : BuildM α) (σ : Session) : Nat × Option String :=
  match x.run σ with
  | .ok _ σ' => (σ'.clock - σ.clock, none)
  | .error e σ' => (σ'.clock - σ.clock, some e.message)

/-- The moves a plan makes on the pool of `n` items; a timed plan takes each call to last as
long as it does from the session the stage starts in. -/
def Plan.moves (e : Executor) (n : Nat) (call : Nat → BuildM α) : Plan → BuildM (List Move)
  | .given ms => pure ms
  | .timed => do
    let σ ← get
    let took i := (probe (call i) σ).1
    let fail i := (probe (call i) σ).2
    return Timeline.moves took fail (e.pool n).measure { pool := e.pool n }

/-- Calls the `n` items of a stage on an executor's pool: the moves given, then the pool on
its own for as many moves as it can still make. The outcomes of the calls, in the order they
returned. -/
def dispatch (e : Executor) (ms : List Move) (n : Nat) (call : Nat → BuildM α) :
    BuildM (List (Nat × Except Fault α)) := do
  let d ← Dispatch.moves call ⟨e.pool n, []⟩ ms
  let d ← Dispatch.drive call d.pool.measure d
  return d.outcomes

/-- The first failure among the outcomes, in the order they returned. -/
def firstFailure (outs : List (Nat × Except Fault α)) : Option Fault :=
  outs.findSome? fun o => failureOf o.2

/-- The value the call on item `i` returned, if it returned one. -/
def valueAt (outs : List (Nat × Except Fault α)) (i : Nat) : Option α :=
  (outs.lookup i).bind Except.toOption

/-- The call on item `i` of a list. -/
def itemCall [Inhabited α] (items : List β) (step : β → BuildM α) (i : Nat) : BuildM α :=
  match items[i]? with
  | some x => step x
  | none => pure default

/-- Maps a step over items on a pool: the values in item order, or the first failure. -/
def mapItems [Inhabited α] (e : Executor) (plan : Plan) (items : List β)
    (step : β → BuildM α) : BuildM (List α) := do
  let ms ← plan.moves e items.length (itemCall items step)
  let outs ← dispatch e ms items.length (itemCall items step)
  match firstFailure outs with
  | some err => throw err
  | none => return (List.range items.length).map fun i => (valueAt outs i).getD default

/-- The failure of an item that was never called. -/
def notRun : Fault := .plain notRunText

/-- Runs a step over items on a pool without letting one item's failure stop the others: every
item's outcome, in item order. -/
def collectItems (e : Executor) (plan : Plan) (items : List β) (step : β → BuildM α) :
    BuildM (List (Except Fault α)) := do
  let ms ← plan.moves e items.length (itemCall items fun x => BuildM.attempt (step x))
  let outs ← dispatch e ms items.length (itemCall items fun x => BuildM.attempt (step x))
  return (List.range items.length).map fun i => (valueAt outs i).getD (.error notRun)

/-- A step whose failure is named by its stage and its item's label. -/
def labelled (stage label : String) (x : BuildM α) : BuildM α :=
  tryCatch x fun e => throw (.stage stage label e)

end TestRig.Build
