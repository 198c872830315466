import TestRig.Results.Basic
import TestRig.Proofs.TextScan
import Mathlib

/-!
# Reading a test executable's output

A result is read from what a test executable printed: its case lines, and the counts line that
ends a finished run. The reading is a fold over the lines; here it is stated over the whole
output, as the cases printed (`printedCases`) and the counts of the last counts line
(`printedCounts`).

* `ofRun_of_no_counts`, `ofRun_of_signaled`, `ofRun_of_counts`: the three ways a result is made;
* `two_mul_length_printedCases_le`: an output has at most half as many cases, rounded up, as
  characters, so counting them never wraps around;
* `ofRun_reads_output`: a result agrees with the output it was read from (`ReadsOutput`).

Printed counts are taken as they stand, with no check against the cases printed
(`ofRun_trusts_printed_counts`).
-/

namespace TestRig.Results

open TestRig.Text

/-! ### The lines of an output -/

/-- The lines of a run's output as they are read: split at line breaks, without the spaces and
carriage returns at their ends. -/
def outputLines (run : Run) : List (List Char) := (run.output.toList.splitOn '\n').map trimLineEnd

/-- The cases a run printed, in order. -/
def printedCases (run : Run) : List Case := (outputLines run).filterMap parseCase

/-- The counts a line gives: none for a case line. -/
def countsOfLine (line : List Char) : Option (Int × Int × Int) :=
  if (parseCase line).isSome then none else parseCounts line

/-- The counts of the last counts line of a run's output, if it printed one. -/
def printedCounts (run : Run) : Option (Int × Int × Int) :=
  ((outputLines run).filterMap countsOfLine).getLast?

lemma scanLines_fst (ls : List (List Char)) :
    (scanLines ls).1 = (ls.map trimLineEnd).filterMap parseCase := by
  induction ls with
  | nil => rfl
  | cons l ls ih =>
    simp only [scanLines]
    rcases hc : parseCase (trimLineEnd l) with _ | c
    · rcases (scanLines ls).2 with _ | v <;> simp [hc, ih]
    · simp [hc, ih]

lemma scanLines_snd (ls : List (List Char)) :
    (scanLines ls).2 = ((ls.map trimLineEnd).filterMap countsOfLine).getLast? := by
  induction ls with
  | nil => rfl
  | cons l ls ih =>
    simp only [scanLines, List.map_cons, List.filterMap_cons]
    rw [ih]
    generalize (ls.map trimLineEnd).filterMap countsOfLine = L
    rcases hc : parseCase (trimLineEnd l) with _ | c
    · -- a line that is no case line: its counts win unless a later line gave some
      have hco : countsOfLine (trimLineEnd l) = parseCounts (trimLineEnd l) := by
        simp [countsOfLine, hc]
      rw [hco]
      rcases hL : L.getLast? with _ | v
      · rw [List.getLast?_eq_none_iff] at hL
        subst hL
        rcases parseCounts (trimLineEnd l) <;> rfl
      · rcases parseCounts (trimLineEnd l) <;> simp [List.getLast?_cons, hL]
    · have hco : countsOfLine (trimLineEnd l) = none := by simp [countsOfLine, hc]
      simp [hco]

lemma scanLines_output (run : Run) :
    scanLines (splitOn run.output.toList ['\n']) = (printedCases run, printedCounts run) := by
  rw [splitOn_single]
  exact Prod.ext (scanLines_fst _) (scanLines_snd _)

/-! ### Counting cases -/

lemma countStatus_nonneg (cases : List Case) (st : String) : 0 ≤ countStatus cases st := by
  simp [countStatus]

lemma countStatus_append_single (cases : List Case) (c : Case) (st : String) :
    countStatus (cases ++ [c]) st = countStatus cases st + if c.status = st then 1 else 0 := by
  by_cases h : c.status = st <;> simp [countStatus, List.filter_append, h]

lemma countStatus_add_le {a b : String} (hab : a ≠ b) (cases : List Case) :
    countStatus cases a + countStatus cases b ≤ cases.length := by
  induction cases with
  | nil => simp [countStatus]
  | cons c cs ih =>
    simp only [countStatus, List.filter_cons, List.length_cons] at ih ⊢
    by_cases ha : c.status = a <;> by_cases hb : c.status = b <;> simp_all <;> omega

lemma countSucc_of_lt {n : Int} (h0 : 0 ≤ n) (h : n + 1 < 2 ^ 63) : countSucc n = n + 1 := by
  have h63 : Int.pow 2 63 = 2 ^ 63 := rfl
  have h64 : Int.pow 2 64 = 2 ^ 64 := rfl
  unfold countSucc toWord
  rw [h63, h64, Int.emod_eq_of_lt (by omega) (by omega)]
  omega

lemma length_filterMap_parseCase_le (ls : List (List Char)) :
    ((ls.map trimLineEnd).filterMap parseCase).length ≤ (ls.filter (· ≠ [])).length := by
  induction ls with
  | nil => simp
  | cons l ls ih =>
    rw [List.map_cons, List.filterMap_cons, List.filter_cons]
    by_cases hl : l = []
    · subst hl
      have hempty : parseCase (trimLineEnd []) = none := rfl
      rw [hempty, if_neg (by simp)]
      exact ih
    · rw [if_pos (by simpa using hl)]
      cases parseCase (trimLineEnd l) <;> simp only [List.length_cons] <;> omega

lemma two_mul_length_printedCases_le (run : Run) :
    2 * (printedCases run).length ≤ run.output.length + 1 := by
  have hpieces := two_mul_length_filter_splitOn_le run.output.toList '\n'
  have hcases := length_filterMap_parseCase_le (run.output.toList.splitOn '\n')
  simp only [printedCases, outputLines, String.length_toList] at *
  omega

lemma output_ne_empty_of_printedCounts {run : Run} {v : Int × Int × Int}
    (h : printedCounts run = some v) : run.output ≠ "" := by
  intro he
  have hnone : (((("" : String).toList.splitOn '\n').map trimLineEnd).filterMap countsOfLine).getLast? = none := by
    decide
  rw [printedCounts, outputLines, he, hnone] at h
  cases h

/-! ### The three ways a result is made -/

section Branches

variable (test source : String) (run : Run)

lemma ofRun_of_no_counts (hc : printedCounts run = none) :
    Result.ofRun test source run =
      { test, source, crashed := true, exitStatus := run.exitStatus, duration := run.duration,
        total := countSucc (printedCases run).length,
        failures := countSucc (countStatus (printedCases run) failStatus),
        ignored := countStatus (printedCases run) ignoreStatus,
        cases := printedCases run ++ [{ name := crashCase, status := failStatus, message := crashMessage run }],
        output := run.output } := by
  simp [Result.ofRun, scanLines_output, hc]

lemma ofRun_of_signaled {n f i : Int} (hs : run.signaled = true) (hc : printedCounts run = some (n, f, i)) :
    Result.ofRun test source run =
      { test, source, crashed := true, exitStatus := run.exitStatus, duration := run.duration,
        total := countSucc n, failures := countSucc f, ignored := i,
        cases := printedCases run ++ [{ name := crashCase, status := failStatus, message := crashMessage run }],
        output := run.output } := by
  simp [Result.ofRun, scanLines_output, hc, hs]

lemma ofRun_of_counts {n f i : Int} (hs : run.signaled = false) (hc : printedCounts run = some (n, f, i)) :
    Result.ofRun test source run =
      { test, source, exitStatus := run.exitStatus, duration := run.duration,
        total := n, failures := f, ignored := i, cases := printedCases run,
        output := if f = 0 then "" else run.output } := by
  by_cases hf : f = 0 <;> simp [Result.ofRun, scanLines_output, hc, hs, Result.passed, hf]

end Branches

/-! ### What a parsed result says -/

/-- What a result read from a run's output says of the run. It counts as crashed exactly when a
signal ended the run or no line other than a case line printed the counts, and then its last
case is the failing crash case. Without counts its totals are those of its own cases; with
counts and no signal they are the printed ones as they stand. The output is kept exactly when
the result did not pass, and it passes exactly when the run ended normally and the last counts
report no failure. -/
structure ReadsOutput (run : Run) (r : Result) : Prop where
  crashed_iff : r.crashed = true ↔ run.signaled = true ∨ printedCounts run = none
  crash_last : r.crashed = true → ∃ c ∈ r.cases.getLast?, c.name = crashCase ∧ c.status = failStatus
  counted : printedCounts run = none →
    r.total = r.cases.length ∧ r.failures = countStatus r.cases failStatus ∧
      r.ignored = countStatus r.cases ignoreStatus ∧ r.failures + r.ignored ≤ r.total
  printed : ∀ n f i, run.signaled = false → printedCounts run = some (n, f, i) →
    r.total = n ∧ r.failures = f ∧ r.ignored = i
  output_iff : r.output = run.output ↔ r.passed = false
  passed_iff : r.passed = true ↔ run.signaled = false ∧ ∃ n i, printedCounts run = some (n, 0, i)

/-- **A parsed result is consistent with its output**, for every output a 64-bit program can
hold: none of the counts it makes wraps around. -/
theorem ofRun_reads_output (test source : String) (run : Run) (hsize : run.output.length < 2 ^ 63) :
    ReadsOutput run (Result.ofRun test source run) := by
  rcases hc : printedCounts run with _ | ⟨n, f, i⟩
  · -- no counts: the cases are counted, and neither count wraps around
    have hlen := two_mul_length_printedCases_le run
    have hsum := countStatus_add_le (a := failStatus) (b := ignoreStatus) (by decide) (printedCases run)
    have h0f := countStatus_nonneg (printedCases run) failStatus
    have h0i := countStatus_nonneg (printedCases run) ignoreStatus
    have htotal : countSucc ((printedCases run).length : Int) = (printedCases run).length + 1 :=
      countSucc_of_lt (by omega) (by omega)
    have hfails : countSucc (countStatus (printedCases run) failStatus) =
        countStatus (printedCases run) failStatus + 1 :=
      countSucc_of_lt h0f (by omega)
    rw [ofRun_of_no_counts test source run hc]
    refine ⟨by simp [hc], fun _ => by simp, fun _ => ?_, by simp [hc], by simp [Result.passed],
      by simp [Result.passed, hc]⟩
    simp only [List.length_append, List.length_singleton, countStatus_append_single, htotal, hfails]
    refine ⟨by push_cast; rfl, by simp [failStatus], by simp [failStatus, ignoreStatus], by omega⟩
  · cases hs : run.signaled
    · -- counts and a normal end: the counts as printed
      have hne := output_ne_empty_of_printedCounts hc
      rw [ofRun_of_counts test source run hs hc]
      by_cases hf : f = 0
      · subst hf
        exact ⟨by simp [hc, hs], by simp, by simp [hc], by simp [hc], by simp [Result.passed, Ne.symm hne],
          by simp [Result.passed, hc, hs]⟩
      · exact ⟨by simp [hc, hs], by simp, by simp [hc], by simp [hc], by simp [Result.passed, hf],
          by simp [Result.passed, hc, hf]⟩
    · -- a signal: crashed over the printed counts
      rw [ofRun_of_signaled test source run hs hc]
      exact ⟨by simp [hs], fun _ => by simp, by simp [hc], by simp [hs], by simp [Result.passed],
        by simp [Result.passed, hs]⟩

/-- An output with a failing case and no counts: a crash over the counted cases. -/
theorem ofRun_reads_unfinished_output :
    ("t.c:3:test_a:FAIL\n" : String).length < 2 ^ 63 ∧
      ReadsOutput ⟨"t.c:3:test_a:FAIL\n", 1, false, 0⟩
        (Result.ofRun "t" "t.c" ⟨"t.c:3:test_a:FAIL\n", 1, false, 0⟩) :=
  ⟨by decide, ofRun_reads_output "t" "t.c" _ (by decide)⟩

/-- Printed counts are taken as they stand: counts of one failure and no test give more
failures than tests, and a result with no failing case that did not crash and does not pass. -/
theorem ofRun_trusts_printed_counts :
    let r := Result.ofRun "t" "t.c" ⟨"0 Tests 1 Failures 0 Ignored\n", 0, false, 0⟩
    r.total < r.failures + r.ignored ∧ r.crashed = false ∧
      (∀ c ∈ r.cases, c.status = passStatus ∨ c.status = ignoreStatus) ∧ r.passed = false := by
  decide

end TestRig.Results
