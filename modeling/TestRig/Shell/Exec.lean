import TestRig.Shell.Expand
import TestRig.Shell.Reading
import TestRig.Shell.Completion

/-!
Running shell scripts over a file tree. A command line runs as the full shell would run it
given with `-c`; scripts may start other shells (`sh` is the light shell, `bash` the full one).

A script runs one complete command at a time; a command that does not parse ends the shell
with status 2 once the commands before it have run. Each step of an and-or list runs when its
joint allows, given the status of the step before.
-/

namespace TestRig.Shell

open TestRig.Files TestRig.Text

inductive LoopNext where
  | again
  | stop
  | out (f : Flow)

def loopNext : Flow → LoopNext
  | .next => .again
  | .continueLoops 0 => .again
  | .continueLoops 1 => .again
  | .continueLoops (k + 2) => .out (.continueLoops (k + 1))
  | .breakLoops 0 => .stop
  | .breakLoops 1 => .stop
  | .breakLoops (k + 2) => .out (.breakLoops (k + 1))
  | f => .out f

def subshellStatus (q : Proc) : Flow → Nat ⊕ (Nat × Nat)
  | .exit c => .inl c
  | .returned c => .inl c
  | .killed pid sig => .inr (pid, sig)
  | _ => .inl q.status

def Program.isOneShot (prog : Program) : Bool :=
  prog.error.isNone &&
  match prog.commands with
  | [[.mk _ false [.simple c] false]] => c.redirects.isEmpty
  | _ => false

def Proc.closePipes (q : Proc) (before : List String) : Shell Proc := do
  let opened := q.pipes.filter fun path => !before.contains path
  if opened.isEmpty then pure q
  else do
    let fs ← filesFrom q
    setFiles (opened.foldl (fun t path => (t.remove (toText path)).toOption.getD t) fs)
    pure { q with pipes := before }

def traceWord (w : String) : String :=
  if w.isEmpty then "''"
  else if hasShellMeta w then "'" ++ w.replace "'" "'\\''" ++ "'"
  else if w.any (fun c => !isPrintable c) then ansiQuote w
  else w

def Assigning.traceText (a : Assigning) : String :=
  let target := a.name ++ (a.sub.map fun s => "[" ++ s ++ "]").getD "" ++ (if a.append then "+=" else "=")
  match a.value with
  | .scalar s => target ++ (if s.isEmpty then "" else traceWord s)
  | .items list => target ++ "(" ++ " ".intercalate (list.map Prod.snd) ++ ")"

def Proc.traceLead (p : Proc) (ps4 : String) : String :=
  if p.dialect != .bash then ps4
  else match ps4.toList with
    | c :: rest => String.ofList (List.replicate (p.nesting + 1) c ++ rest)
    | [] => ""

def zeroTime (decimals : Nat) (long : Bool) : String :=
  let d := min decimals 3
  let secs := if d == 0 then "0" else "0." ++ String.ofList (List.replicate d '0')
  if long then "0m" ++ secs ++ "s" else secs

def timeReport : Nat → List Char → String
  | 0, _ => ""
  | _, [] => ""
  | fuel + 1, '%' :: '%' :: rest => "%" ++ timeReport fuel rest
  | fuel + 1, '%' :: 'P' :: rest => "0.00" ++ timeReport fuel rest
  | fuel + 1, '%' :: rest =>
    let (decimals, rest) := match rest with
      | d :: more => if d.isDigit then (d.toNat - '0'.toNat, more) else (3, rest)
      | [] => (3, rest)
    let (long, rest) := match rest with
      | 'l' :: more => (true, more)
      | _ => (false, rest)
    match rest with
    | c :: more =>
      if c == 'R' || c == 'U' || c == 'S' then zeroTime decimals long ++ timeReport fuel more
      else "%" ++ timeReport fuel rest
    | [] => "%"
  | fuel + 1, c :: rest => String.singleton c ++ timeReport fuel rest

def replyNumber (reply : String) : Option Int :=
  let t := (reply.toList.dropWhile (fun c => c == ' ' || c == '\t')).reverse.dropWhile (fun c => c == ' ' || c == '\t')
  match t.reverse with
  | '+' :: ds => (String.ofList ds).toNat?.map Int.ofNat
  | '-' :: ds => (String.ofList ds).toNat?.map fun k => -Int.ofNat k
  | ds => (String.ofList ds).toNat?.map Int.ofNat

def digitWidth (k : Nat) : Nat := (toString k).length

def menuIndent : Nat → Nat → Nat → String
  | 0, _, _ => ""
  | fuel + 1, col, goal =>
    if col ≥ goal then ""
    else if goal / 8 > col / 8 then "\t" ++ menuIndent fuel (col + 8 - col % 8) goal
    else " " ++ menuIndent fuel (col + 1) goal

def menuRow (items : List String) (rows width : Nat) : Nat → Nat → Nat → String
  | 0, _, _ => ""
  | fuel + 1, ind, pos =>
    let numWidth := if pos == 0 then digitWidth rows else digitWidth items.length
    let num := toString (ind + 1)
    let item := items[ind]?.getD ""
    let entry := String.ofList (List.replicate (numWidth - num.length) ' ') ++ num ++ ") " ++ item
    let used := item.length + numWidth + 2
    if ind + rows ≥ items.length then entry
    else entry ++ menuIndent (width + 8) (pos + used) (pos + width) ++ menuRow items rows width fuel (ind + rows) (pos + width)

def selectMenu (items : List String) (columns : Nat) : String :=
  let count := items.length
  let width := (items.foldl (fun m w => max m w.length) 0) + digitWidth count + 4
  let cols := max 1 (columns / width)
  let rows := count / cols + (if count % cols != 0 then 1 else 0)
  let cols := count / rows + (if count % rows != 0 then 1 else 0)
  let rows := if rows == 1 then cols else rows
  String.join ((List.range rows).map fun row => menuRow items rows width (count + 1) row 0 ++ "\n")

def Proc.withoutInheritedTraps (p : Proc) : Proc :=
  if p.dialect != .bash then p
  else { p with debugTrap := if p.optionOn "functrace" || p.shopt "extdebug" then p.debugTrap else none,
                errTrap := if p.optionOn "errtrace" then p.errTrap else none }

def Proc.trapsFor (p : Proc) : Command → Proc
  | .simple _ => p
  | _ => p.withoutInheritedTraps

def Proc.traceLines (p : Proc) (assigned : List Assigning) (fields : List String) : List String :=
  match p.dialect with
  | .bash => assigned.map Assigning.traceText ++ (if fields.isEmpty then [] else [" ".intercalate (fields.map traceWord)])
  | .dash => [" ".intercalate (assigned.map Assigning.traceText ++ fields.map traceWord)]

def Proc.noteLastWord (p : Proc) (name : String) (args : List String) : Proc :=
  if p.dialect == .bash then { p with vars := setVar p.vars "_" (args.getLast?.getD name) false } else p

def Redirect.copied? (r : Redirect) : Option Nat :=
  match r.kind with
  | .dup => r.target.literal?.bind String.toNat?
  | _ => none

def restoreDescriptors (before after : Proc) (redirects : List Redirect) : Proc :=
  let opens (fd : Nat) := redirects.any (·.fd == fd)
  let sources := before.sources.map fun (fd, text) =>
    (fd, if opens fd then text else (after.sources.lookup fd).getD text)
  match (redirects.filter (·.fd == 0)).getLast? with
  | none => { after with sinks := before.sinks, sources }
  | some r =>
    if r.copied? == some 0 then { after with sinks := before.sinks, sources }
    else
      let sources := match r.copied? with
        | some m =>
          if before.sources.any (·.1 == m) && !opens m then
            sources.map fun (fd, text) => (fd, if fd == m then after.input else text)
          else sources
        | none => sources
      { after with sinks := before.sinks, input := before.input, sources }

def negateStatus (s : Nat) : Nat := if s == 0 then 1 else 0

def checkedByErrexit : List Command → Bool
  | [.simple _] | [.subshell _ _] | [.timed _ _] => true
  | [_] => false
  | _ => true

def endsList : List Step → Bool
  | [] => true
  | s :: _ => s.joint == .always

/-! ### Scripts -/

mutual

def traceCommand : Nat → Proc → List String → Shell Proc
  | 0, p, _ => pure p
  | _, p, [] => pure p
  | n + 1, p, l :: rest =>
    if !p.xtrace then pure p
    else do
      let raw := (p.lookupVar "PS4").getD ""
      let (q, ps4) ← match heredocParts (p.dialect == .bash) (raw.length + 1) raw.toList [] with
        | .ok parts => expandWord (substitute n) n { p with xtrace := false } parts
        | .error _ => pure (p, raw)
      let q := { q with xtrace := true, status := p.status }
      emit q 2 (q.traceLead ps4 ++ l ++ "\n")
      traceCommand n q rest

def runDebugTrap : Nat → Proc → String → Shell (Proc × Flow × Bool)
  | 0, p, _ => pure (p, .next, false)
  | n + 1, p, text =>
    if p.dialect != .bash then pure (p, .next, false)
    else
      let p := if p.trapping then p else { p with command := text }
      match p.debugTrap with
      | some cmd =>
        if p.debugging || cmd.isEmpty then pure (p, .next, false)
        else do
          let inner := { p with debugging := true, trapping := true, nesting := p.nesting + 1 }
          let (q, flow) ← runText n inner cmd false
          let failed := q.status != 0
          let q := { q with debugging := false, trapping := p.trapping, nesting := p.nesting, status := p.status }
          match flow with
          | .next | .abandoned => pure (q, .next, p.shopt "extdebug" && failed)
          | f => pure (q, f, false)
      | none => pure (p, .next, false)

def trapBeforeFork : Nat → Proc → Command → Shell (Proc × Flow)
  | 0, p, _ => pure (p, .next)
  | n + 1, p, .simple s => do
    let (q, flow, _) ← runDebugTrap n { p with line := s.line } (Command.shownText (.simple s))
    pure (q, flow)
  | _, p, _ => pure (p, .next)

def runSteps : Nat → Proc → List Step → Shell (Proc × Flow)
  | 0, p, _ => pure (p, .next)
  | _, p, [] => pure (p, .next)
  | n + 1, p, s :: rest => do
    let group := s :: rest.takeWhile (·.joint != .always)
    let go := match s.joint with
      | .always => true
      | .ifSuccess => p.status == 0
      | .ifFailure => p.status != 0
    if s.joint == .always && group.getLast?.any (·.background) then do
      -- an and-or list sent to the background runs in a subshell that reads nothing, and
      -- the shell goes on with status 0
      let foreground := group.map fun t => Step.mk t.joint t.negate t.pipeline false
      -- a simple command alone keeps the traps, but its failure is not the child's to trap
      let (p, child) ← match foreground with
        | [s] => match s.pipeline with
          | [c] => do
            let (p, _) ← trapBeforeFork n p c
            pure (p, { p.trapsFor c with errTrap := none, debugRan := c matches .simple _ })
          | _ => pure (p, p.withoutInheritedTraps)
        | _ => pure (p, p.withoutInheritedTraps)
      -- the job runs beside the shell: its waiting is not the shell's
      let clock := (← get).clock
      let (q, flow) ← runSteps n { child with exitTrap := none, forked := true, input := "" } foreground
      let _ ← runExitTrap n q flow
      modify fun w => { w with clock }
      runSteps n { p with status := 0 } (rest.drop (group.length - 1))
    else if !go then runSteps n p rest
    else
      let (p, flow) ← runPipeline n p s.pipeline
      let p := if s.negate then { p with status := negateStatus p.status } else p
      match flow with
      | .next => do
        let counts := !p.tested && !s.negate && p.status != 0 && endsList rest && checkedByErrexit s.pipeline
        let (p, flow) ← match p.errTrap, counts with
          | some cmd, true => do
            let failed := p.status
            let inner := { p with errTrap := none, trapping := true, nesting := p.nesting + 1 }
            let (q, flow) ← runText n inner cmd false
            pure ({ q with errTrap := p.errTrap, status := failed, trapping := p.trapping, nesting := p.nesting }, flow)
          | _, _ => pure (p, .next)
        match flow with
        | .next => if p.errexit && counts then pure (p, .exit p.status) else runSteps n p rest
        | f => pure (p, f)
      | f => pure (p, f)

def runPipeline : Nat → Proc → List Command → Shell (Proc × Flow)
  | 0, p, _ => pure (p, .next)
  | _, p, [] => pure (p, .next)
  | n + 1, p, [c] => do
    let (q, flow) ← runNode n p c
    pure (q.setPipeStatus [q.status], flow)
  | n + 1, p, cmds => runPiped n p p.input 0 [] cmds

def runPiped : Nat → Proc → String → Nat → List Nat → List Command → Shell (Proc × Flow)
  | 0, p, _, _, _, _ => pure (p, .next)
  | _, p, _, _, _, [] => pure (p, .next)
  | n + 1, p, input, failed, statuses, [c] => do
    -- under bash's lastpipe the last command runs in the shell itself
    let inShell := p.dialect == .bash && p.shopt "lastpipe"
    let (p, trapFlow) ← if inShell then pure (p, .next) else trapBeforeFork n p c
    if !(trapFlow matches .next) then pure (p, trapFlow) else do
    let r := if inShell then p else { p.trapsFor c with debugRan := c matches .simple _ }
    let (q, flow) ← runNode n { r with input, forked := p.forked || !inShell } c
    if inShell then
      let q := { q with input := p.input }
      match flow with
      | .next =>
        let q := q.setPipeStatus (statuses ++ [q.status])
        pure ({ q with status := if q.status == 0 && p.pipefail then failed else q.status }, .next)
      | f => pure (q, f)
    else
    match subshellStatus q flow with
    | .inl status =>
      let p := p.setPipeStatus (statuses ++ [status])
      pure ({ p with status := if status == 0 && p.pipefail then failed else status }, .next)
    | .inr (pid, sig) => pure (p, .killed pid sig)
  | n + 1, p, input, failed, statuses, c :: rest => do
    let (p, trapFlow) ← trapBeforeFork n p c
    if !(trapFlow matches .next) then pure (p, trapFlow) else do
    let id ← openBuffer
    let child := { p.trapsFor c with input, sinks := setSink p.sinks 1 (.buffer id), forked := true,
                                     debugRan := c matches .simple _ }
    let (q, flow) ← runNode n child c
    let out ← closeBuffer id
    match subshellStatus q flow with
    | .inr (pid, sig) => pure (p, .killed pid sig)
    | .inl status => runPiped n p out (if status == 0 then failed else status) (statuses ++ [status]) rest

def runNode : Nat → Proc → Command → Shell (Proc × Flow)
  | 0, p, _ => pure (p, .next)
  | _ + 1, p@{ noexec := true, .. }, _ => pure (p, .next)
  | n + 1, p, .simple c => do
    let (q, flow) ← runSimple n p c
    let q ← q.closePipes p.pipes
    pure (q, flow)
  | _, p, .function name body =>
    pure ({ p with functions := (name, body) :: p.functions.filter (·.1 != name), status := 0 }, .next)
  | n + 1, p, c => do
    let redirects := match c with
      | .group _ rs | .subshell _ rs | .ifThen _ _ rs | .loop _ _ _ rs | .forIn _ _ _ rs _ | .select _ _ _ rs _
      | .caseOf _ _ rs _
      | .arith _ _ rs | .cond _ _ rs _ | .forArith _ _ _ _ rs => rs
      | _ => []
    let (p, opened) ← applyRedirects (substitute n) n p p.descriptors redirects
    match opened with
    | .error msg => do
      complain p msg
      pure ({ p with status := 1 }, .next)
    | .ok d => do
      let (q, flow) ← runCompound n (p.withDescriptors d) c
      let q ← q.closePipes p.pipes
      pure (restoreDescriptors p q redirects, flow)

def runCompound : Nat → Proc → Command → Shell (Proc × Flow)
  | 0, p, _ => pure (p, .next)
  | n + 1, p, .group body _ => runSteps n p body
  | n + 1, p, .subshell body _ => do
    let (q, flow) ← runSteps n { p.withoutInheritedTraps with exitTrap := none, forked := true } body
    let (q, flow) ← runExitTrap n q flow
    match subshellStatus q flow with
    | .inl status => pure ({ p with status }, .next)
    | .inr (pid, sig) => pure (p, .killed pid sig)
  | n + 1, p, .ifThen branches other _ => runIf n p branches other
  | n + 1, p, .loop untilHolds cond body _ => runLoop n { p with status := 0 } untilHolds cond body 0
  | n + 1, p, .forIn name words body _ shown => do
    let (p, items) ← match words with
      | some ws => expandWords (substitute n) n p ws
      | none => pure (p, p.args)
    if p.expansionFault.isSome then pure p.afterFailedExpansion
    else runFor n p ("for " ++ name ++ " in " ++ shown) name items body 0
  | n + 1, p, .select name words body _ shown => do
    let head := "select " ++ name ++ " in " ++ shown
    let p ← traceCommand n p [head]
    let (p, flow, skip) ← runDebugTrap n p head
    match flow with
    | .next =>
      if skip then pure ({ p with status := 0 }, .next) else do
      let (p, items) ← match words with
        | some ws => expandWords (substitute n) n p ws
        | none => pure (p, p.args)
      if p.expansionFault.isSome then pure p.afterFailedExpansion
      else if items.isEmpty then pure ({ p with status := 0 }, .next)
      else runSelect n p name items body true
    | f => pure (p, f)
  | n + 1, p, .caseOf subject arms _ shown => do
    let subjectText := shown.headD ""
    let p ← if p.dialect == .bash then traceCommand n p ["case " ++ subjectText ++ " in"] else pure p
    let (p, flow, skip) ← runDebugTrap n p ("case " ++ subjectText ++ " in ")
    match flow with
    | .next =>
      if skip then pure ({ p with status := 0 }, .next) else do
      let (p, text) ← expandWord (substitute n) n p subject
      if p.expansionFault.isSome then pure p.afterFailedExpansion
      else runCase n p text false false arms
    | f => pure (p, f)
  | n + 1, p, .arith expr line _ => do
    let (p, flow, skip) ← runDebugTrap n { p with line } ("((" ++ expr ++ "))")
    if !(flow matches .next) then pure (p, flow)
    else if skip then pure ({ p with status := 0 }, .next) else do
    let (p, text) ← expandArith (substitute n) n p expr
    let p ← traceCommand n p ["(( " ++ text.getD "" ++ " ))"]
    let (p, r) := match text with
      | some t => p.arith t
      | none => (p, .ok 0)
    match p.expansionFault, r with
    | some .exitShell, .error msg => do
      complain p msg
      pure p.afterFailedExpansion
    | some _, _ => pure p.afterFailedExpansion
    | none, .ok v => pure ({ p with status := if v != 0 then 0 else 1 }, .next)
    | none, .error msg => do
      complain p ("((: " ++ msg)
      pure ({ p with status := 1 }, .next)
  | n + 1, p, .cond e line _ shown => do
    let (p, flow, skip) ← runDebugTrap n { p with line } ("[[ " ++ shown ++ " ]]")
    if !(flow matches .next) then pure (p, flow)
    else if skip then pure ({ p with status := 0 }, .next) else do
    let (p, r) ← evalCond (substitute n) (fun q l => traceCommand n q [l]) n p false e
    if p.expansionFault.isSome then pure p.afterFailedExpansion
    else match r with
      | .ok b => pure ({ p with status := if b then 0 else 1 }, .next)
      | .error (status, msg) => do
        if !msg.isEmpty then complain p msg
        pure ({ p with status }, .next)
  | n + 1, p, .timed posix body => do
    -- the pipeline's failure counts once the time is reported
    let (q, flow) ← runSteps n { p with tested := true } body
    let q := { q with tested := p.tested }
    let format := if posix then "real %2R\nuser %2U\nsys %2S"
      else (q.lookupVar "TIMEFORMAT").getD "\nreal\t%3lR\nuser\t%3lU\nsys\t%3lS"
    if (flow matches .next) && !format.isEmpty then
      emit q 2 (timeReport (format.length + 1) format.toList ++ "\n")
    pure (q, flow)
  | n + 1, p, .forArith start test step body _ => do
    let (p, flow, r) ← forArithPart n p start
    if !(flow matches .next) then pure (p, flow) else
    match r with
    | .error msg => do
      complain p ("((: " ++ msg)
      pure ({ p with status := 1 }, .next)
    | .ok _ => runForArith n p test step body 0
  | _, p, _ => pure (p, .next)

def runIf : Nat → Proc → List (Script × Script) → Script → Shell (Proc × Flow)
  | 0, p, _, _ => pure (p, .next)
  | n + 1, p, [], other =>
    if other.isEmpty then pure ({ p with status := 0 }, .next) else runSteps n p other
  | n + 1, p, (cond, body) :: rest, other => do
    let (q, flow) ← runSteps n { p with tested := true } cond
    let q := { q with tested := p.tested }
    match flow with
    | .next => if q.status == 0 then runSteps n q body else runIf n q rest other
    | f => pure (q, f)

def runLoop : Nat → Proc → Bool → Script → Script → Nat → Shell (Proc × Flow)
  | 0, p, _, _, _, last => pure ({ p with status := last }, .next)
  | n + 1, p, untilHolds, cond, body, last => do
    let inner := { p with loops := p.loops + 1, tested := true }
    let (q, flow) ← runSteps n inner cond
    let q := { q with loops := p.loops, tested := p.tested }
    match loopNext flow with
    | .out f => pure (q, f)
    | .stop => pure (q, .next)
    | .again =>
      if (q.status == 0) == untilHolds then pure ({ q with status := last }, .next)
      else
        let (r, flow) ← runSteps n { q with loops := p.loops + 1 } body
        let r := { r with loops := p.loops }
        match loopNext flow with
        | .out f => pure (r, f)
        | .stop => pure (r, .next)
        | .again => runLoop n r untilHolds cond body r.status

def runFor : Nat → Proc → String → String → List String → Script → Nat → Shell (Proc × Flow)
  | 0, p, _, _, _, _, last => pure ({ p with status := last }, .next)
  | _, p, _, _, [], _, last => pure ({ p with status := last }, .next)
  | n + 1, p, head, name, item :: items, body, last => do
    -- bash traces the loop's head, and runs the DEBUG trap, before each item
    let p ← if p.dialect == .bash then traceCommand n p [head] else pure p
    let (p, flow, skip) ← runDebugTrap n p head
    if !(flow matches .next) then pure (p, flow)
    else if skip then runFor n p head name items body last else do
    let p := { p with vars := setVar p.vars name item false, loops := p.loops + 1 }
    let (q, flow) ← runSteps n p body
    let q := { q with loops := p.loops - 1 }
    match loopNext flow with
    | .out f => pure (q, f)
    | .stop => pure (q, .next)
    | .again => runFor n q head name items body q.status

def runSelect : Nat → Proc → String → List String → Script → Bool → Shell (Proc × Flow)
  | 0, p, _, _, _, _ => pure (p, .next)
  | n + 1, p, name, items, body, menu => do
    let columns := match (p.lookupVar "COLUMNS").bind String.toNat? with
      | some c => if c > 0 then c else 80
      | none => 80
    if menu then emit p 2 (selectMenu items columns)
    emit p 2 ((p.lookupVar "PS3").getD "#? ")
    let (q, _) ← runBashRead p [] []
    if q.status != 0 then do
      emit q 1 "\n"
      pure ({ q with status := 1 }, .next)
    else
      let reply := (q.lookupVar "REPLY").getD ""
      if reply.isEmpty then runSelect n q name items body true
      else do
        let choice := match replyNumber reply with
          | some k => if k ≥ 1 then (items[k.toNat - 1]?).getD "" else ""
          | none => ""
        let q := { q with vars := setVar q.vars name choice false, loops := q.loops + 1 }
        let (r, flow) ← runSteps n q body
        let r := { r with loops := p.loops }
        match loopNext flow with
        | .out f => pure (r, f)
        | .stop => pure (r, .next)
        | .again => runSelect n r name items body (r.lookupVar "REPLY" == some "")

def forArithPart : Nat → Proc → String → Shell (Proc × Flow × Except String Int)
  | 0, p, _ => pure (p, .next, .ok 0)
  | n + 1, p, part => do
    let kept := arithPart part
    let expr := if kept.isEmpty then "1" else kept
    let (p, text) ← expandArith (substitute n) n p expr
    let p ← traceCommand n p ["(( " ++ text.getD "" ++ " ))"]
    let (p, flow, skip) ← runDebugTrap n p ("((" ++ expr ++ "))")
    if !(flow matches .next) then pure (p, flow, .ok 0)
    else if skip then pure (p, .next, .ok 0)
    else match text with
      | some t =>
        let (p, r) := p.arith t
        pure (p, .next, r)
      | none => pure (p, .next, .ok 0)

def runForArith : Nat → Proc → String → String → Script → Nat → Shell (Proc × Flow)
  | 0, p, _, _, _, last => pure ({ p with status := last }, .next)
  | n + 1, p, test, step, body, last => do
    let (p, flow, r) ← forArithPart n p test
    if !(flow matches .next) then pure (p, flow) else
    match r with
    | .error msg => do
      complain p ("((: " ++ msg)
      pure ({ p with status := 1 }, .next)
    | .ok v =>
      if v == 0 then pure ({ p with status := last }, .next)
      else do
        let (q, flow) ← runSteps n { p with loops := p.loops + 1 } body
        let q := { q with loops := p.loops }
        match loopNext flow with
        | .out f => pure (q, f)
        | .stop => pure (q, .next)
        | .again => do
          let (q, flow, r) ← forArithPart n q step
          if !(flow matches .next) then pure (q, flow) else
          match r with
          | .error msg => do
            complain q ("((: " ++ msg)
            pure ({ q with status := 1 }, .next)
          | .ok _ => runForArith n q test step body q.status

def runCase : Nat → Proc → String → Bool → Bool → List (List Word × Script × ArmEnd) → Shell (Proc × Flow)
  | 0, p, _, _, _, _ => pure (p, .next)
  | _, p, _, _, ran, [] => pure (if ran then p else { p with status := 0 }, .next)
  | n + 1, p, subject, forced, ran, (patterns, body, ending) :: rest => do
    let (p, texts) ← if forced then pure (p, []) else expandPatterns (substitute n) n p patterns
    if p.expansionFault.isSome then pure p.afterFailedExpansion
    else if forced || texts.any fun t => matchFolded (p.shopt "nocasematch") (Pattern.items t) subject.toList then do
      let (q, flow) ← if body.isEmpty then pure ({ p with status := 0 }, .next) else runSteps n p body
      match flow, ending with
      | .next, .fallThrough => runCase n q subject true true rest
      | .next, .testNext => runCase n q subject false true rest
      | f, _ => pure (q, f)
    else runCase n p subject false ran rest

def runSimple : Nat → Proc → Simple → Shell (Proc × Flow)
  | 0, p, _ => pure (p, .next)
  | n + 1, p, c => do
    let p := { p with line := c.line, substStatus := none }
    let (p, flow, skip) ← if p.debugRan then pure ({ p with debugRan := false }, .next, false)
      else if p.dialect == .bash then runDebugTrap n p (Command.shownText (.simple c))
      else pure (p, .next, false)
    if !(flow matches .next) then pure (p, flow)
    else if skip then pure ({ p with status := 0 }, .next) else do
    let (assigns, words) := leadingAssignments c.words
    let declarer := match words with
      | w :: _ => w.literal?.filter fun t => p.dialect.declarers.contains t && (p.functions.lookup t).isNone
      | [] => none
    match declarer with
    | some cmd => do
      let (p, items) ← declItems (substitute n) n p (words.drop 1)
      let (p, opened) ← applyRedirects (substitute n) n p p.descriptors c.redirects
      if p.expansionFault.isSome then pure p.afterFailedExpansion else
      match opened with
      | .error msg => do
        complain p msg
        pure ({ p with status := p.dialect.usageStatus }, .next)
      | .ok d => do
        let (q, flow) ← runDeclare (p.withDescriptors d) cmd items
        pure (restoreDescriptors p q c.redirects, flow)
    | none => do
      let (p, assigned) ← expandAssignments (substitute n) n p assigns
      let (p, fields) ← expandWords (substitute n) n p words
      let (p, opened) ← applyRedirects (substitute n) n p p.descriptors c.redirects
      if p.expansionFault.isSome then pure p.afterFailedExpansion else
      match opened with
      | .error msg => do
        complain p msg
        pure ({ p with status := p.dialect.usageStatus }, .next)
      | .ok d => do
        let p ← traceCommand n p (p.traceLines assigned fields)
        match fields with
        | [] => do
          let (q, ok) ← assigned.foldlM (fun (q, ok) a => do
              let (q, done) ← q.assign a
              pure (q, ok && done)) (p, true)
          if ok then pure ({ q with status := q.substStatus.getD 0 }, .next)
          else if q.expansionFault.isSome then pure q.afterFailedExpansion
          else if q.dialect == .dash then pure ({ q with status := 2 }, .exit 2)
          else pure ({ q with status := 1 }, .abandoned)
        | name :: args => do
          let env := assigned.filterMap fun a => match a.value, a.sub with
            | .scalar s, none => some (a.name, s)
            | _, _ => none
          -- a function or builtin sees the assignments for its run only, but the light
          -- shell's special builtins keep them
          let inShell := (p.functions.lookup name).isSome || p.builtinOn name ||
            p.dialect.declarers.contains name || name == "let"
          let keeps := p.dialect == .dash && specialBuiltins.contains name
          if inShell && !env.isEmpty then do
            let saved := env.map fun (k, _) => (k, p.var? k)
            let vars := env.foldl (fun vs (k, v) => setVar vs k v true) p.vars
            let (q, flow) ← runCommand n { p.withDescriptors d with vars } name args []
            let q := if keeps then q else
              { q with vars := saved.foldl (fun vs (k, old) => match old with
                | some v => replaceVar vs v
                | none => unsetVar vs k) q.vars }
            pure ((restoreDescriptors p q c.redirects).noteLastWord name args, flow)
          else if name == "exec" && args.isEmpty then
            -- without a command, the redirections of exec stay for the rest of the shell
            pure ({ p.withDescriptors d with status := 0 }.noteLastWord name args, .next)
          else do
            let (q, flow) ← runCommand n (p.withDescriptors d) name args env
            pure ((restoreDescriptors p q c.redirects).noteLastWord name args, flow)

def runCommand : Nat → Proc → String → List String → List (String × String) → Shell (Proc × Flow)
  | 0, p, _, _, _ => pure (p, .next)
  | n + 1, p, name, args, assigned => do
    match p.functions.lookup name with
    | some body => do
      -- bash keeps the stack of the functions being run in FUNCNAME, BASH_SOURCE and
      -- BASH_LINENO: each function's name, the file it is in, and the line it was called from
      let callStacks := ["FUNCNAME", "BASH_SOURCE", "BASH_LINENO"]
      let saved := callStacks.map fun s => (s, p.ownVar? s)
      let source := p.sourcing.getD (if p.commandMode then "environment" else p.zero)
      let push (vars : List Var) (stack top : String) (bottom : List String) : List Var :=
        let below := match (p.ownVar? stack).map (·.elements) with
          | some [] | none => bottom
          | some es => es
        replaceVar vars { name := stack, shape := .indexed,
                          cells := (top :: below).zipIdx.map fun (s, i) => (i, s) }
      let vars := if p.dialect == .bash then
          let main := !p.commandMode && p.sourcing.isNone
          let vars := push p.vars "FUNCNAME" name (if main then ["main"] else [])
          let vars := push vars "BASH_SOURCE" source (if main then [p.zero] else [])
          push vars "BASH_LINENO" (toString p.line) (if main then ["0"] else [])
        else p.vars
      -- the traps a function does not inherit come back after it, unless it set its own; one
      -- that it inherits runs as it starts
      let inner := p.withoutInheritedTraps
      let (inner, entry, _) ← if inner.debugTrap.isSome then runDebugTrap n inner p.command
        else pure (inner, .next, false)
      if !(entry matches .next) then pure (inner, entry) else do
      let (q, flow) ← runNode n { inner with args, vars, inFunction := true, frames := [] :: p.frames } body
      let q := { q with
        debugTrap := if inner.debugTrap.isNone && q.debugTrap.isNone then p.debugTrap else q.debugTrap,
        errTrap := if inner.errTrap.isNone && q.errTrap.isNone then p.errTrap else q.errTrap }
      let q := q.popFrame
      let vars := if p.dialect == .bash then
          saved.foldl (fun vs (s, old) => match old with
            | some v => replaceVar vs v
            | none => unsetVar vs s) q.vars
        else q.vars
      let q := { q with args := p.args, vars, inFunction := p.inFunction }
      match flow with
      | .returned c => pure ({ q with status := c }, .next)
      | f => pure (q, f)
    | none =>
    let builtinHere := (p.builtinOn name || p.dialect.declarers.contains name) && !p.disabled.contains name
    if builtinHere && !(name == "local" && p.frames.isEmpty) then do
      -- the light shell heads its messages with the builtin being run, which a builtin's own
      -- messages name already
      let (q, flow) ← runBuiltinCommand n { p with context := none } name args assigned
      pure ({ q with context := p.context }, flow)
    else runFound n p name args assigned false

def runBuiltinCommand : Nat → Proc → String → List String → List (String × String) → Shell (Proc × Flow)
  | 0, p, _, _, _ => pure (p, .next)
  | n + 1, p, name, args, assigned => do
      match ← p.builtinOptions name args with
      | .error r => pure r
      | .ok (opts, rest) =>
      -- a builtin without options gets its arguments after a `--`
      let given := match p.dialect.builtinSyntax? name with
        | some s => if s.letters.isEmpty then rest else args
        | none => args
      if name == "exec" then
        match rest with
        | [] => pure ({ p with status := 0 }, .next)
        | cmd :: more => do
          let (q, flow) ← runFound n { p with context := some "exec" } cmd more assigned true
          let q := { q with context := p.context }
          match flow with
          | .next => pure (q, .exit q.status)
          | f => pure (q, f)
      else if name == "eval" then do
        let context := if p.dialect == .dash then some "eval" else none
        let inner := { p with inEval := true, context, nesting := p.nesting + 1 }
        let (q, flow) ← runText n inner (" ".intercalate rest) false
        pure ({ q with inEval := p.inEval, context := p.context, nesting := p.nesting }, flow)
      else if name == "type" then runType p args
      else if name == "command" then
        let letters := opts.map (·.letter)
        if letters.contains 'v' then runCommandPath p rest
        else if letters.contains 'V' then runType p rest
        else match rest with
          | [] => pure ({ p with status := 0 }, .next)
          | cmd :: more => do
            let (q, flow) ← runCommand n { p with functions := [] } cmd more assigned
            pure ({ q with functions := p.functions }, flow)
      else if name == "." || name == "source" then runSource n p name rest
      else if name == "builtin" then
        match rest with
        | [] => pure ({ p with status := 0 }, .next)
        | cmd :: more =>
          if p.builtinOn cmd || (p.dialect.declarers.contains cmd && !p.disabled.contains cmd) then do
            let (q, flow) ← runCommand n { p with functions := [] } cmd more assigned
            pure ({ q with functions := p.functions }, flow)
          else do
            complain p ("builtin: " ++ cmd ++ ": not a shell builtin")
            pure ({ p with status := 1 }, .next)
      else if p.dialect.keptBuiltins.contains name then runKept p name opts rest
      else if name == "read" then runRead p opts rest
      else if name == "mapfile" || name == "readarray" then
        runMapfile p name opts rest fun q text => do
          let (r, flow) ← runText n { q with nesting := q.nesting + 1 } text false
          pure ({ r with nesting := q.nesting }, flow)
      else if name == "let" && p.dialect == .bash then runLet p args
      else if name == "trap" then runTrap p opts rest
      else if name == "shopt" then runShopt p opts rest
      else if name == "compgen" && p.dialect == .bash then runCompgen p opts rest
      else if name == "set" && args.isEmpty then do
        emit p 1 p.setListing
        pure ({ p with status := 0 }, .next)
      else if name == "kill" then do
        let (q, flow) ← runBuiltin p name given
        runPending n q flow
      else if p.dialect.declarers.contains name then runDeclare p name (args.map declItemOf)
      else runBuiltin p name given

def runFound : Nat → Proc → String → List String → List (String × String) → Bool → Shell (Proc × Flow)
  | 0, p, _, _, _, _ => pure (p, .next)
  | n + 1, p, name, args, assigned, replacing => do
      let fs ← filesFrom p
      match p.locate fs name with
      | .program prog =>
        match shellOf? prog with
        | some d =>
          let path := if name.contains '/' then name else (p.programPath prog).getD name
          let env := (p.programEnvironment assigned path).map fun (k, v) =>
            ({ name := k, cells := [(0, v)], exported := true } : Var)
          let p := if name.contains '/' then p else p.noteRun name path
          runShell n p d name args env
        | none =>
          let path := if name.contains '/' then name else (p.programPath prog).getD name
          let p := if name.contains '/' then p else p.noteRun name path
          let env := p.programEnvironment assigned path
          match prog, envRequest args with
          | "env", .ok request =>
            match request.command with
            | cmd :: cmdArgs => runUnder n p cmd cmdArgs (request.apply env)
            | [] => runProgram p prog args env (← commandRunner n p env) name
          | _, _ => runProgram p prog args env (← commandRunner n p env) name
      | target => do
        if replacing && p.dialect == .bash then
          let abs := if name.startsWith "/" then name else ofText p.cwd ++ "/" ++ trimPrefix name "./"
          match target with
          | .notFound => do
            complain p ("exec: " ++ name ++ ": not found")
            pure ({ p with status := 127 }, .next)
          | .missing => do
            complain p (name ++ ": No such file or directory")
            pure ({ p with status := 127 }, .next)
          | other => do
            let why := if other matches .directory then "Is a directory" else "Permission denied"
            complain p (abs ++ ": " ++ why)
            complain p ("exec: " ++ abs ++ ": cannot execute: " ++ why)
            pure ({ p with status := 126 }, .next)
        else
        let (msg, status) := p.cannotRun name target
        complain p msg
        pure ({ p with status }, .next)


def commandRunner : Nat → Proc → List (String × String) → Shell CommandRun
  | 0, _, _ => pure fun t _ => ("", "", t)
  | n + 1, p, env => do
    let w ← get
    pure fun t cmd =>
      let run : Shell (String × String) := do
        let outId ← openBuffer
        let errId ← openBuffer
        let pid ← fresh
        let vars := startingVars .dash (ofText p.cwd)
          (env.map fun (k, v) => ({ name := k, cells := [(0, v)], exported := true } : Var)) p.pid
        let child : Proc := { dialect := .dash, zero := "sh", vars, pid, lineage := p.pid :: p.lineage, parent := p.pid,
                              cwd := p.cwd, sinks := [(1, .buffer outId), (2, .buffer errId)], input := "" }
        let _ ← runText n child cmd true
        let out ← closeBuffer outId
        let err ← closeBuffer errId
        pure (out, err)
      let ((out, err), after) := Id.run (run.run { w with files := t })
      (out, err, after.files)

def runUnder : Nat → Proc → String → List String → List (String × String) → Shell (Proc × Flow)
  | 0, p, _, _, _ => pure (p, .next)
  | n + 1, p, cmd, args, env => do
    let fs ← filesFrom p
    let searching := match env.lookup "PATH" with
      | some path => { p with vars := setVar p.vars "PATH" path false }
      | none => { p with vars := setVar p.vars "PATH" "/bin:/usr/bin" false }
    match searching.locate fs cmd with
    | .program prog =>
      match shellOf? prog with
      | some d =>
        let vars := env.map fun (k, v) => ({ name := k, cells := [(0, v)], exported := true } : Var)
        runShell n p d cmd args vars
      | none => runProgram p prog args env (← commandRunner n p env) cmd
    | target => do
      let why := match target with
        | .directory | .denied => "Permission denied"
        | _ => "No such file or directory"
      emit p 2 ("env: '" ++ cmd ++ "': " ++ why ++ "\n")
      pure ({ p with status := if why == "Permission denied" then 126 else 127 }, .next)

def runShell : Nat → Proc → Dialect → String → List String → List Var → Shell (Proc × Flow)
  | 0, p, _, _, _, _ => pure (p, .next)
  | n + 1, p, d, argv0, args, env => do
    let opts := args.takeWhile fun a => a.length > 1 && a.startsWith "-" && a != "--"
    let rest := args.drop opts.length
    let rest := if rest.head? == some "--" then rest.drop 1 else rest
    let pid ← if p.oneShot then pure p.pid else fresh
    -- a shell that takes over this process has this process's parent
    let parent := if p.oneShot then p.parent else p.pid
    let child : Proc := { dialect := d, zero := argv0, vars := startingVars d (ofText p.cwd) env parent, pid, lineage := p.pid :: p.lineage, parent,
                          cwd := p.cwd, sinks := p.sinks, input := p.input }
    let child := opts.foldl (fun c o =>
      (o.toList.drop 1).foldl (fun c l => (c.setOption (o.startsWith "-") l).getD c) c) child
    if opts.any (·.contains 'c') then
      match rest with
      | [] => do
        emit p 2 (argv0 ++ ": -c: option requires an argument\n")
        pure ({ p with status := 2 }, .next)
      | script :: more =>
        let child := match more with
          | z :: as => { child with zero := z, args := as }
          | [] => child
        -- bash runs a script of one simple command in its own process
        let child := { child with oneShot := d == .bash && (parseProgram true script).isOneShot }
        let child := if d == .bash then { child with vars := setVar child.vars "BASH_EXECUTION_STRING" script false }
          else child
        runChild n p child script
    else
      match rest with
      | file :: more => do
        let fs ← filesFrom p
        match readBytes fs file with
        | .ok text =>
          -- bash's stack of sources starts with the script's file
          let vars := if d == .bash then setElements (setElements child.vars "BASH_SOURCE" [file]) "BASH_LINENO" ["0"]
            else child.vars
          runChild n p { child with zero := file, args := more, commandMode := false, vars } text
        | .error _ => do
          match d with
          | .dash =>
            emit p 2 (argv0 ++ ": 0: cannot open " ++ file ++ ": No such file\n")
            pure ({ p with status := 2 }, .next)
          | .bash =>
            emit p 2 (argv0 ++ ": " ++ file ++ ": No such file or directory\n")
            pure ({ p with status := 127 }, .next)
      | [] => runChild n p { child with commandMode := false } p.input

def runChild : Nat → Proc → Proc → String → Shell (Proc × Flow)
  | 0, p, _, _ => pure (p, .next)
  | n + 1, p, child, text => do
    let (q, flow) ← runText n child text true
    match childStatus p child q flow with
    | .inl status => do
      -- bash tells of a child a signal ended, unless it was an interrupt or a broken pipe
      match flow with
      | .killed pid sig =>
        if pid == child.pid && p.dialect == .bash && sig != 2 && sig != 13 then
          emit p 2 (signalDescription sig ++ "\n")
      | _ => pure ()
      pure ({ p with status }, .next)
    | .inr (pid, sig) => pure (p, .killed pid sig)

def runSource : Nat → Proc → String → List String → Shell (Proc × Flow)
  | 0, p, _, _ => pure (p, .next)
  | n + 1, p, name, args => do
    let bash := p.dialect == .bash
    match args with
    | [] =>
      if bash then do
        complain p (name ++ ": filename argument required")
        emit p 2 (name ++ ": usage: " ++ (if name == "." then ". filename [arguments]" else "source filename [arguments]") ++ "\n")
        pure ({ p with status := 2 }, .next)
      else pure ({ p with status := 0 }, .next)
    | file :: more => do
      let fs ← filesFrom p
      if !bash && !file.contains '/' then do
        complain p (name ++ ": " ++ file ++ ": not found")
        pure ({ p with status := 2 }, .exit 2)
      else if bash && dirExists fs file then do
        complain p (name ++ ": " ++ file ++ ": is a directory")
        pure ({ p with status := 1 }, .next)
      else match readBytes fs file with
        | .error e =>
          if bash then do
            complain p (file ++ ": " ++ errnoText e.errno)
            pure ({ p with status := 1 }, .next)
          else do
            complain p (name ++ ": cannot open " ++ file ++ ": No such file")
            pure ({ p with status := 2 }, .exit 2)
        | .ok text => do
          let given := bash && !more.isEmpty
          let inner := { p with sourcing := some file, args := if given then more else p.args,
                                nesting := p.nesting + 1 }
          let (q, flow) ← runText n inner text false
          let args := if given && q.args == more then p.args else q.args
          let q := { q with sourcing := p.sourcing, args, line := p.line, nesting := p.nesting }
          match flow with
          | .returned c => pure ({ q with status := c }, .next)
          | f => pure (q, f)

def runText : Nat → Proc → String → Bool → Shell (Proc × Flow)
  | 0, p, _, _ => pure (p, .next)
  | n + 1, p, text, fatal => do
    let prog := parseProgram (p.dialect == .bash) text (p.shopt "extglob")
    -- a text without commands succeeds
    let p := if prog.commands.isEmpty && prog.error.isNone then { p with status := 0 } else p
    let (q, flow) ← if prog.unclosed.isEmpty || p.dialect != .bash then runUnits n p prog.commands
      else do
        let held := if prog.error.isSome then prog.commands.length else prog.commands.length - 1
        let (q, flow) ← runUnits n p (prog.commands.take held)
        match flow with
        | .next | .abandoned => do
          let lastLine := lineBreaks text.toList + (if text.endsWith "\n" then 0 else 1)
          for (start, delim) in prog.unclosed do
            emit q 2 (q.zero ++ ": line " ++ toString lastLine ++ ": warning: here-document at line " ++
              toString start ++ " delimited by end-of-file (wanted `" ++ delim ++ "')\n")
          runUnits n q (prog.commands.drop held)
        | f => pure (q, f)
    let (q, flow) ← match flow, prog.error with
      | .next, some e => do
        emit q 2 (q.syntaxMessage e text)
        pure ({ q with status := 2 }, if fatal then .exit 2 else .next)
      | f, _ => pure (q, f)
    if fatal then runExitTrap n q flow else pure (q, flow)

def runExitTrap : Nat → Proc → Flow → Shell (Proc × Flow)
  | 0, p, flow => pure (p, flow)
  | n + 1, p, flow =>
    match p.exitTrap, flow with
    | none, _ => pure (p, flow)
    | some _, .killed _ _ => pure (p, flow)
    | some cmd, _ => do
      let code := match flow with
        | .exit c => c
        | .returned c => c
        | _ => p.status
      let (q, after) ← runText n { p with exitTrap := none, status := code, trapping := true } cmd false
      match after with
      | .exit c => pure (q, .exit c)
      | .killed pid sig => pure (q, .killed pid sig)
      | _ => pure ({ q with status := code }, .exit code)

def runPending : Nat → Proc → Flow → Shell (Proc × Flow)
  | 0, p, flow => pure (p, flow)
  | n + 1, p, flow =>
    match p.pending with
    | [] => pure (p, flow)
    | sig :: more =>
      let p := { p with pending := more }
      match p.signalTraps.lookup sig with
      | some cmd => do
        let (q, after) ← runText n { p with trapping := true, nesting := p.nesting + 1 } cmd false
        let q := { q with trapping := p.trapping, nesting := p.nesting }
        match after with
        | .next | .abandoned => runPending n { q with status := p.status } flow
        | f => pure (q, f)
      | none => runPending n p flow

def runUnits : Nat → Proc → List Script → Shell (Proc × Flow)
  | 0, p, _ => pure (p, .next)
  | _, p, [] => pure (p, .next)
  | n + 1, p, u :: us => do
    let (q, flow) ← runSteps n p u
    match flow with
    | .next | .abandoned => runUnits n q us
    | f => pure (q, f)

def substitute : Nat → Proc → String → Bool → Shell (Proc × String)
  | 0, p, _, _ => pure (p, "")
  | n + 1, p, text, whole => do
    let id ← openBuffer
    let inner := { p.withoutInheritedTraps with
      sinks := setSink p.sinks 1 (.buffer id), errexit := p.errexit && p.dialect == .dash,
      exitTrap := none, nesting := p.nesting + 1, forked := true }
    let (q, flow) ← runText n inner text true
    let out ← closeBuffer id
    let status := match subshellStatus q flow with
      | .inl s => s
      | .inr (_, sig) => 128 + sig
    if whole then pure (p, out)
    else pure ({ p with status, substStatus := some status }, dropTrailingNewlines out)

end

/-! ### Command lines -/

/-- How a command line's process ended: its combined output, its status (-1 when a signal
ended it) and whether a signal did. -/
structure Exit where
  output : String
  status : Int
  signaled : Bool
  interrupted : Bool := false
  took : Nat := 0
  deriving Inhabited

def runFuel : Nat := Nat.pow 2 20

def topPid : Nat := 4242

def runLine (files : Tree) (dir : String) (env : List (String × String)) (line : String) :
    Tree × Exit :=
  let text := ofText line
  let top : Proc := { dialect := .bash, zero := "/bin/bash",
                      vars := setVar (setVar (startingVars .bash (ofText (files.resolve dir)) (env.map fun (k, v) => { name := ofText k, cells := [(0, ofText v)], exported := true }) hostPid) "_" "/bin/bash" false) "BASH_EXECUTION_STRING" text false,
                      pid := topPid, cwd := files.resolve dir, sinks := [(1, .console), (2, .console)],
                      oneShot := (parseProgram true text).isOneShot }
  let run : Shell Exit := do
    let (q, flow) ← runText runFuel top text true
    pure <| match subshellStatus q flow with
      | .inl status => { output := "", status := status, signaled := false }
      | .inr _ => { output := "", status := -1, signaled := true }
  let (ex, w) := run.run { files, next := topPid + 1 }
  ({ w.files with cwd := files.cwd },
    { ex with output := toText w.console, interrupted := w.interrupted, took := w.clock })

end TestRig.Shell
