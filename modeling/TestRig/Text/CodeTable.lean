import TestRig.Text.Chars

/-!
Properties of code points stored as runs. The Unicode character database gives most of its
properties as ranges of code points that share a value; a `CodeTable` keeps the first code point
of each run and the run's value, in ascending order, and finds the run of a code point by
halving. Tables are written as text, `start:value` pairs in hexadecimal, or `lo-hi` ranges for a
set, so that a table of thousands of runs is one string literal.
-/

namespace TestRig.Text

/-- Runs of code points: `starts[i]` is the first code point of run `i`, and every code point from
there to the next start has the value `values[i]`. -/
structure CodeTable where
  starts : Array Nat
  values : Array Nat
  deriving Inhabited

def hexDigitValue (c : Char) : Option Nat :=
  if '0' ≤ c && c ≤ '9' then some (c.toNat - 48)
  else if 'a' ≤ c && c ≤ 'f' then some (c.toNat - 87)
  else if 'A' ≤ c && c ≤ 'F' then some (c.toNat - 55)
  else none

def hexNumber (cs : List Char) : Nat :=
  cs.foldl (fun acc c => match hexDigitValue c with
    | some d => acc * 16 + d
    | none => acc) 0

def tableWords (lines : List String) : List (List Char) :=
  (lines.flatMap fun s => (s.splitOn " ").filter (· != "")).map String.toList

def splitWord (w : List Char) (sep : Char) : List Char × Option (List Char) :=
  match w.findIdx? (· == sep) with
  | some i => (w.take i, some (w.drop (i + 1)))
  | none => (w, none)

namespace CodeTable

def ofRuns (s : List String) : CodeTable :=
  let pairs := (tableWords s).map fun w =>
    let (a, b) := splitWord w ':'
    (hexNumber a, hexNumber (b.getD []))
  ⟨(pairs.map Prod.fst).toArray, (pairs.map Prod.snd).toArray⟩

def ofRanges (s : List String) : CodeTable :=
  let pairs := (tableWords s).flatMap fun w =>
    let (a, b) := splitWord w '-'
    let lo := hexNumber a
    let hi := match b with
      | some h => hexNumber h
      | none => lo
    [(lo, 1), (hi + 1, 0)]
  ⟨(pairs.map Prod.fst).toArray, (pairs.map Prod.snd).toArray⟩

def upperBound (t : CodeTable) (c : Nat) (lo hi : Nat) (h : hi ≤ t.starts.size) : Nat :=
  if hlt : lo < hi then
    let mid := (lo + hi) / 2
    have hmid : mid < t.starts.size := by omega
    if t.starts[mid] ≤ c then upperBound t c (mid + 1) hi h
    else upperBound t c lo mid (by omega)
  else lo
termination_by hi - lo

def run? (t : CodeTable) (c : Nat) : Option (Nat × Nat) :=
  match upperBound t c 0 t.starts.size (Nat.le_refl _) with
  | 0 => none
  | i + 1 => some (t.starts[i]?.getD 0, t.values[i]?.getD 0)

def value (t : CodeTable) (c : Nat) : Nat :=
  match t.run? c with
  | some (_, v) => v
  | none => 0

def contains (t : CodeTable) (c : Nat) : Bool := t.value c != 0

end CodeTable

end TestRig.Text
