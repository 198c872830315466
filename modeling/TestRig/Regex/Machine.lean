import TestRig.Regex.Syntax

/-!
Running regular expressions. A parsed expression is compiled to a program of a small machine
(character tests, prioritised forks, captures and zero-width tests) and run by simulating all
its threads at once over the input, one character per step.
-/

namespace TestRig.Regex

open TestRig.Text

/-- An instruction of the matching machine; the numbers are the instructions that follow. -/
inductive Inst where
  | fail
  | fork (first second : Nat)
  | check (a : Anchor) (next : Nat)
  | save (slot : Nat) (next : Nat)
  | char (set : CharSet) (next : Nat)
  | accept
  deriving Repr, Inhabited

/-- A compiled expression: the program, its entry and the number of capture groups. -/
structure Program where
  code : Array Inst
  start : Nat
  captures : Nat
  longest : Bool
  /-- The tree of an expression that refers back to its groups, which the machine cannot run:
  it is matched by searching instead. -/
  tree : Option Node := none
  deriving Inhabited

/-! ### Compiling -/

def patch (code : Array Inst) (at_ : Nat) (i : Inst) : Array Inst := code.set! at_ i

def append (code : Array Inst) (i : Inst) : Array Inst × Nat :=
  let at_ := code.size
  (code.push i, at_)

abbrev Emitter := Array Inst → Nat → Array Inst × Nat

def forkChain (code : Array Inst) (next : Nat) : List Nat → Array Inst × Nat
  | [] => (code, next)
  | [e] => (code, e)
  | e :: es =>
    let (code, rest) := forkChain code next es
    append code (.fork e rest)

def emitCopies (body : Emitter) (code : Array Inst) (next : Nat) : Nat → Array Inst × Nat
  | 0 => (code, next)
  | n + 1 =>
    let (code, entry) := body code next
    emitCopies body code entry n

def emitOptional (body : Emitter) (greedy : Bool) (code : Array Inst) (next : Nat) :
    Nat → Array Inst × Nat
  | 0 => (code, next)
  | n + 1 =>
    let (code, inner) := emitOptional body greedy code next n
    let (code, entry) := body code inner
    append code (if greedy then .fork entry next else .fork next entry)

def emitLoop (body : Emitter) (greedy plus : Bool) (code : Array Inst) (next : Nat) :
    Array Inst × Nat :=
  let loop := code.size
  let code := code.push .fail
  let (code, entry) := body code loop
  (patch code loop (if greedy then .fork entry next else .fork next entry),
    if plus then entry else loop)

def emitRepeat (body : Emitter) (least : Nat) (most : Option Nat) (greedy : Bool)
    (code : Array Inst) (next : Nat) : Array Inst × Nat :=
  match least, most with
  | 0, none => emitLoop body greedy false code next
  | n + 1, none =>
    let (code, entry) := emitLoop body greedy true code next
    emitCopies body code entry n
  | least, some most =>
    let (code, entry) := emitOptional body greedy code next (most - least)
    emitCopies body code entry least

mutual
def emit (code : Array Inst) (next : Nat) : Node → Array Inst × Nat
  | .empty => (code, next)
  | .chars set => append code (.char set next)
  | .anchor a => append code (.check a next)
  | .cat parts => emitCat code next parts
  | .alt choices =>
    let (code, entries) := emitChoices code next choices
    forkChain code next entries
  | .group none body => emit code next body
  | .group (some k) body =>
    let close := code.size
    let code := code.push (.save (2 * k + 1) next)
    let (code, entry) := emit code close body
    append code (.save (2 * k) entry)
  | .repeat body least most greedy =>
    emitRepeat (fun c n => emit c n body) least most greedy code next
  | .backref _ => append code .fail

def emitCat (code : Array Inst) (next : Nat) : List Node → Array Inst × Nat
  | [] => (code, next)
  | x :: xs =>
    let (code, entry) := emitCat code next xs
    emit code entry x

def emitChoices (code : Array Inst) (next : Nat) : List Node → Array Inst × List Nat
  | [] => (code, [])
  | x :: xs =>
    let (code, e) := emit code next x
    let (code, es) := emitChoices code next xs
    (code, e :: es)
end

def compileParsed (p : Parsed) : Program :=
  let (code, start) := emit #[.accept] 0 p.root
  { code, start, captures := p.captures, longest := false,
    tree := if p.root.hasBackref then some p.root else none }

/-! ### Running -/

abbrev Slots := Array Int

/-- A thread: the instruction it waits at and its captures. -/
structure Thread where
  pc : Nat
  slots : Slots

/-- The threads at one position in priority order, and the instructions already reached
there, which no later thread may reach again. -/
structure Queue where
  seen : Array Bool
  threads : Array Thread

/-- The characters on either side of a position; none at the ends of the text. -/
structure Around where
  before : Option Char
  after : Option Char

def isWordAt : Option Char → Bool
  | some c => isWordChar c
  | none => false

def Anchor.holds : Anchor → Around → Bool
  | .lineStart, a => a.before.isNone || a.before == some '\n'
  | .lineEnd, a => a.after.isNone || a.after == some '\n'
  | .textStart, a => a.before.isNone
  | .textEnd, a => a.after.isNone
  | .wordBoundary, a => isWordAt a.before != isWordAt a.after
  | .notWordBoundary, a => isWordAt a.before == isWordAt a.after

def Program.emptyQueue (p : Program) : Queue := ⟨Array.replicate p.code.size false, #[]⟩

def Program.add (p : Program) (around : Around) (pos : Nat) : Nat → Queue → Nat → Slots → Queue
  | 0, q, _, _ => q
  | fuel + 1, q, pc, slots =>
    if q.seen[pc]?.getD true then q
    else
      let q := { q with seen := q.seen.set! pc true }
      match p.code[pc]? with
      | some (.fork a b) =>
        let q := p.add around pos fuel q a slots
        p.add around pos fuel q b slots
      | some (.check an nx) => if an.holds around then p.add around pos fuel q nx slots else q
      | some (.save k nx) =>
        p.add around pos fuel q nx (if k < slots.size then slots.set! k pos else slots)
      | some (.char _ _) => { q with threads := q.threads.push ⟨pc, slots⟩ }
      | some .accept => { q with threads := q.threads.push ⟨pc, slots⟩ }
      | _ => q

def Program.advance (p : Program) (c : Option Char) (pos : Nat) (around : Around) :
    List Thread → Queue → Option Slots → Queue × Option Slots
  | [], nq, m => (nq, m)
  | t :: ts, nq, m =>
    let begin := t.slots[0]?.getD 0
    if p.longest && (match m with
        | some old => old[0]?.getD 0 < begin
        | none => false) then p.advance c pos around ts nq m
    else
    match p.code[t.pc]? with
    | some .accept =>
      if p.longest then
        let m := match m with
          | some old => if old[1]?.getD 0 == (pos : Int) then some old else some (t.slots.set! 1 pos)
          | none => some (t.slots.set! 1 pos)
        p.advance c pos around ts nq m
      else (nq, some (t.slots.set! 1 pos))
    | some (.char set nx) =>
      match c with
      | some ch =>
        if set.mem ch then
          p.advance c pos around ts (p.add around (pos + 1) (p.code.size + 1) nq nx t.slots) m
        else p.advance c pos around ts nq m
      | none => p.advance c pos around ts nq m
    | _ => p.advance c pos around ts nq m

def Program.blankSlots (p : Program) : Slots := Array.replicate (2 * (p.captures + 1)) (-1)

/-! ### Searching, for back-references -/

def aroundAt (input : Array Char) (pos : Nat) : Around :=
  ⟨if pos = 0 then none else input[pos - 1]?, input[pos]?⟩

def repeatsAt (input : Array Char) (a b pos : Nat) : Bool :=
  pos + (b - a) ≤ input.size && (List.range (b - a)).all fun i => input[a + i]? == input[pos + i]?

mutual
def Node.ends (input : Array Char) : Nat → Node → Nat → Slots → List (Nat × Slots)
  | 0, _, _, _ => []
  | _ + 1, .empty, pos, s => [(pos, s)]
  | _ + 1, .chars set, pos, s =>
    match input[pos]? with
    | some c => if set.mem c then [(pos + 1, s)] else []
    | none => []
  | _ + 1, .anchor a, pos, s => if a.holds (aroundAt input pos) then [(pos, s)] else []
  | f + 1, .cat parts, pos, s => seqEnds input f parts pos s
  | f + 1, .alt choices, pos, s => altEnds input f choices pos s
  | f + 1, .group none body, pos, s => Node.ends input f body pos s
  | f + 1, .group (some k) body, pos, s =>
    (Node.ends input f body pos (s.set! (2 * k) pos)).map fun (e, s') => (e, s'.set! (2 * k + 1) e)
  | f + 1, .repeat body least most greedy, pos, s => repeatEnds input f body least most greedy 0 pos s
  | _ + 1, .backref k, pos, s =>
    let a := s[2 * k]?.getD (-1)
    let b := s[2 * k + 1]?.getD (-1)
    if a < 0 || b < a then []
    else if repeatsAt input a.toNat b.toNat pos then [(pos + (b - a).toNat, s)] else []

def seqEnds (input : Array Char) : Nat → List Node → Nat → Slots → List (Nat × Slots)
  | 0, _, _, _ => []
  | _ + 1, [], pos, s => [(pos, s)]
  | f + 1, x :: xs, pos, s => (Node.ends input f x pos s).flatMap fun (e, s') => seqEnds input f xs e s'

def altEnds (input : Array Char) : Nat → List Node → Nat → Slots → List (Nat × Slots)
  | 0, _, _, _ => []
  | _ + 1, [], _, _ => []
  | f + 1, x :: xs, pos, s => Node.ends input f x pos s ++ altEnds input f xs pos s

def repeatEnds (input : Array Char) : Nat → Node → Nat → Option Nat → Bool → Nat → Nat → Slots →
    List (Nat × Slots)
  | 0, _, _, _, _, _, _, _ => []
  | f + 1, body, least, most, greedy, count, pos, s =>
    let more := if most.all (count < ·) then
        (Node.ends input f body pos s).flatMap fun (e, s') =>
          if e == pos && count ≥ least then [] else repeatEnds input f body least most greedy (count + 1) e s'
      else []
    if count < least then more
    else if greedy then more ++ [(pos, s)] else (pos, s) :: more
end

def Program.search (p : Program) (t : Node) (input : Array Char) (start : Nat) : Option Slots :=
  go (input.size + 1 - start) start
where
  go : Nat → Nat → Option Slots
    | 0, _ => none
    | n + 1, pos =>
      let fuel := (input.size + 2) * (p.code.size + 2)
      let found := Node.ends input fuel t pos (p.blankSlots.set! 0 pos)
      let best := if p.longest then
          match (found.map (·.1)).max? with
          | some e => found.find? (·.1 == e)
          | none => none
        else found.head?
      match best with
      | some (e, s) => some (s.set! 1 e)
      | none => if pos ≥ input.size then none else go n (pos + 1)

def Program.exec (p : Program) (input : Array Char) (start : Nat) : Option Slots :=
  match p.tree with
  | some t => p.search t input start
  | none => loop (input.size + 1 - start) start p.emptyQueue none
where
  loop : Nat → Nat → Queue → Option Slots → Option Slots
    | 0, _, _, m => m
    | fuel + 1, pos, runq, m =>
      if runq.threads.isEmpty && m.isSome then m
      else
        let around : Around := ⟨if pos = 0 then none else input[pos - 1]?, input[pos]?⟩
        let runq := if m.isNone then
            p.add around pos (p.code.size + 1) runq p.start (p.blankSlots.set! 0 pos)
          else runq
        let c := input[pos]?
        let (nq, m') := p.advance c pos ⟨c, input[pos + 1]?⟩ runq.threads.toList p.emptyQueue m
        match c with
        | none => m'
        | some _ => loop fuel (pos + 1) nq m'

def Program.ofString (s : String) : Except SyntaxError Program := (parse s).map compileParsed

def Program.longestOf (s : String) : Except SyntaxError Program :=
  (parseWith true s).map fun p => { compileParsed p with longest := true }

def Program.never : Program := { code := #[.fail], start := 0, captures := 0, longest := false }

def Program.test (p : Program) (s : String) : Bool := (p.exec s.toList.toArray 0).isSome

def slice (input : Array Char) (a b : Nat) : String := String.ofList (input.extract a b).toList

def groupsOf (input : Array Char) (slots : Slots) : List (Option String) :=
  (List.range (slots.size / 2)).map fun k =>
    let a := slots[2 * k]?.getD (-1)
    let b := slots[2 * k + 1]?.getD (-1)
    if a < 0 || b < 0 then none else some (slice input a.toNat b.toNat)

def Program.groups? (p : Program) (s : String) : Option (List (Option String)) :=
  let input := s.toList.toArray
  (p.exec input 0).map (groupsOf input)

def Program.allSlots (p : Program) (input : Array Char) : List Slots :=
  go (input.size + 2) 0 (-1)
where
  go : Nat → Nat → Int → List Slots
    | 0, _, _ => []
    | fuel + 1, pos, prevEnd =>
      if pos > input.size then []
      else match p.exec input pos with
        | none => []
        | some m =>
          let a : Int := m[0]?.getD 0
          let b : Int := m[1]?.getD 0
          if b == (pos : Int) then
            let rest := go fuel (pos + 1) b
            if a == prevEnd then rest else m :: rest
          else m :: go fuel b.toNat b

def Program.allGroups (p : Program) (s : String) : List (List (Option String)) :=
  let input := s.toList.toArray
  (p.allSlots input).map (groupsOf input)

def Program.replaceAll (p : Program) (s : String) (repl : String) : String :=
  let input := s.toList.toArray
  String.ofList (go input (input.size + 2) 0 0)
where
  go (input : Array Char) : Nat → Nat → Nat → List Char
    | 0, _, lastEnd => (input.extract lastEnd input.size).toList
    | fuel + 1, searchPos, lastEnd =>
      if searchPos > input.size then (input.extract lastEnd input.size).toList
      else match p.exec input searchPos with
        | none => (input.extract lastEnd input.size).toList
        | some m =>
          let a := (m[0]?.getD 0).toNat
          let b := (m[1]?.getD 0).toNat
          let piece := (input.extract lastEnd a).toList ++
            (if b > lastEnd || a == 0 then repl.toList else [])
          let next := if searchPos + 1 > b then searchPos + 1 else b
          piece ++ go input fuel next b

end TestRig.Regex
