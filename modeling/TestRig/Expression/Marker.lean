import TestRig.Fault
import TestRig.Text.Chars

/-!
Markers: the `#{...}` spans in argument templates and environment values that hold an
expression. A marker opens at `#{` unless a backslash stands before it, and closes at the brace
that balances it; braces inside count. Offsets are in bytes of the UTF-8 text. Scanning resumes
after each marker, so markers never overlap, and a marker that never closes makes the whole
text fail.
-/

namespace TestRig.Expression

open TestRig.Text

/-- One marker: the byte offsets of its whole span (`#{` to `}` inclusive) and the text
between the braces. -/
structure Marker where
  start : Nat
  stop : Nat
  expr : String
  deriving Repr, Inhabited, BEq

def byteSize (cs : List Char) : Nat := cs.foldl (fun n c => n + c.utf8Size) 0

/-- The text of a marker's body and the rest after its closing brace, if it closes; braces
opened inside the body are balanced first. -/
def closeMarker : List Char → Nat → List Char → Option (List Char × List Char)
  | [], _, _ => none
  | c :: r, depth, acc =>
    if c == '}' then
      if depth == 0 then some (acc.reverse, r) else closeMarker r (depth - 1) (c :: acc)
    else if c == '{' then closeMarker r (depth + 1) (c :: acc)
    else closeMarker r depth (c :: acc)

/-- The markers of a text, in order, scanning from byte offset `pos` with `prev` the character
before it; none when a marker does not close. -/
def scanMarkers : Nat → List Char → Nat → Option Char → Option (List Marker)
  | 0, _, _, _ => some []
  | _ + 1, [], _, _ => some []
  | fuel + 1, c :: r, pos, prev =>
    match c, r with
    | '#', '{' :: body =>
      if prev == some '\\' then scanMarkers fuel r (pos + 1) (some '#')
      else
        match closeMarker body 0 [] with
        | none => none
        | some (inner, rest) =>
          let stop := pos + 2 + byteSize inner + 1
          match scanMarkers fuel rest stop (some '}') with
          | some ms => some (⟨pos, stop, String.ofList inner⟩ :: ms)
          | none => none
    | _, _ => scanMarkers fuel r (pos + c.utf8Size) (some c)

/-- The markers of a text, or the failure that one of them does not close. -/
def findMarkers (s : String) : Outcome (List Marker) :=
  match scanMarkers (s.length + 1) s.toList 0 none with
  | some ms => .ok ms
  | none => .error (.config "expression" ("unterminated marker in '" ++ s ++ "'"))

/-- Every marker a scan finds ends after the first byte. -/
theorem scanMarkers_stop_pos {fuel pos : Nat} {cs : List Char} {prev : Option Char}
    {ms : List Marker} (h : scanMarkers fuel cs pos prev = some ms) : ∀ m ∈ ms, 0 < m.stop := by
  induction fuel generalizing cs pos prev ms with
  | zero => simp_all [scanMarkers]
  | succ fuel ih =>
    cases cs with
    | nil => simp_all [scanMarkers]
    | cons c r =>
      unfold scanMarkers at h
      split at h
      · split at h
        · exact ih h
        · split at h
          · simp at h
          · dsimp only at h
            split at h
            · next ms' hms =>
              simp only [Option.some.injEq] at h
              subst h
              intro m hm
              rcases List.mem_cons.mp hm with rfl | hm
              · simp only
                omega
              · exact ih hms m hm
            · simp at h
      · exact ih h

/-- The text holds a marker, or one that does not close. -/
def hasMarkers (s : String) : Bool :=
  match findMarkers s with
  | .ok ms => !ms.isEmpty
  | .error _ => true

/-- Turns escaped markers `\#{` into plain text `#{`. -/
def unescapeMarkers (s : String) : String :=
  String.ofList (replaceAll s.toList ['\\', '#', '{'] ['#', '{'])

def bytePrefix (s : String) (n : Nat) : String :=
  String.ofList (go s.toList n)
where
  go : List Char → Nat → List Char
    | [], _ => []
    | c :: r, n => if c.utf8Size ≤ n then c :: go r (n - c.utf8Size) else []

def byteSuffix (s : String) (n : Nat) : String :=
  String.ofList (go s.toList n)
where
  go : List Char → Nat → List Char
    | [], _ => []
    | c :: r, n => if n = 0 then c :: r else go r (n - c.utf8Size)

theorem byteSuffix_go_length_le : ∀ (cs : List Char) (n : Nat), (byteSuffix.go cs n).length ≤ cs.length
  | [], _ => Nat.le_refl _
  | c :: r, n => by
    unfold byteSuffix.go
    split
    · exact Nat.le_refl _
    · exact Nat.le_trans (byteSuffix_go_length_le r _) (Nat.le_succ _)

/-- The text after its first marker is shorter than the text: the marker ends past its first
byte, and a text with a marker has a character. -/
theorem findMarkers_first_suffix_lt {s : String} {m : Marker} {ms : List Marker}
    (h : findMarkers s = .ok (m :: ms)) : (byteSuffix s m.stop).length < s.length := by
  unfold findMarkers at h
  split at h
  · next ms' hscan =>
    simp only [Except.ok.injEq] at h
    subst h
    have hstop := scanMarkers_stop_pos hscan m List.mem_cons_self
    rw [byteSuffix, String.length_ofList, ← String.length_toList]
    cases hcs : s.toList with
    | nil => simp [hcs, scanMarkers] at hscan
    | cons c r =>
      unfold byteSuffix.go
      rw [if_neg (by omega), List.length_cons]
      exact Nat.lt_succ_of_le (byteSuffix_go_length_le r _)
  · simp at h

end TestRig.Expression
