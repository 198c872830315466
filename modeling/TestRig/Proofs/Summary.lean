import TestRig.Build.Run
import Mathlib.Data.String.Basic

/-!
# The summary of a build

A build notes, for each test it runs, the test's result or the reason it could not be run,
and sorts both lists by test before it reports them. Sorting inserts each entry after the
entries whose test does not come later than its own.

* `sortByKey_perm`, `sortByKey_sorted`: sorting by a key keeps the entries and orders them by
  the key; `sort` does so for the results and the errors, each by test;
* `note_results`, `note_errors`: noting an outcome adds the result, or the error it names;
* `failed_iff`: a summary has failed exactly when it holds an error or a result that did not
  pass.
-/

namespace TestRig.Results.Summary

/-! ### Sorting by a key -/

section Sorting

variable {α : Type} (key : α → String)

lemma insertByKey_perm (x : α) (xs : List α) : (insertByKey key x xs).Perm (x :: xs) := by
  induction xs with
  | nil => rfl
  | cons y ys ih =>
    unfold insertByKey
    split
    · rfl
    · exact (ih.cons y).trans (List.Perm.swap x y ys)

lemma insertByKey_sorted (x : α) {xs : List α} (hxs : xs.Pairwise (key · ≤ key ·)) :
    (insertByKey key x xs).Pairwise (key · ≤ key ·) := by
  induction xs with
  | nil => simp [insertByKey]
  | cons y ys ih =>
    obtain ⟨hy, hys⟩ := List.pairwise_cons.mp hxs
    unfold insertByKey
    split
    · next hlt =>
      refine List.pairwise_cons.mpr ⟨fun z hz => ?_, hxs⟩
      rcases List.mem_cons.mp hz with rfl | hz
      · exact le_of_lt hlt
      · exact (le_of_lt hlt).trans (hy z hz)
    · next hge =>
      -- `x` goes after `y`, whose key is not above it
      refine List.pairwise_cons.mpr ⟨fun z hz => ?_, ih hys⟩
      rcases List.mem_cons.mp ((insertByKey_perm key x ys).mem_iff.mp hz) with rfl | hz
      · exact not_lt.mp hge
      · exact hy z hz

lemma foldl_insertByKey_perm (acc xs : List α) :
    (xs.foldl (fun acc x => insertByKey key x acc) acc).Perm (acc ++ xs) := by
  induction xs generalizing acc with
  | nil => simp
  | cons x xs ih =>
    rw [List.foldl_cons]
    exact (ih _).trans (((insertByKey_perm key x acc).append_right xs).trans List.perm_middle.symm)

lemma foldl_insertByKey_sorted (acc xs : List α) (hacc : acc.Pairwise (key · ≤ key ·)) :
    (xs.foldl (fun acc x => insertByKey key x acc) acc).Pairwise (key · ≤ key ·) := by
  induction xs generalizing acc with
  | nil => exact hacc
  | cons x xs ih => exact ih _ (insertByKey_sorted key x hacc)

/-- Sorting by a key keeps the entries. -/
theorem sortByKey_perm (xs : List α) : (sortByKey key xs).Perm xs := by
  unfold sortByKey
  simpa using foldl_insertByKey_perm key [] xs

/-- Sorting by a key orders the entries by it. -/
theorem sortByKey_sorted (xs : List α) : (sortByKey key xs).Pairwise (key · ≤ key ·) :=
  foldl_insertByKey_sorted key [] xs List.Pairwise.nil

end Sorting

/-! ### The sorted summary -/

section Sorted

variable (sm : Summary)

lemma sort_results_perm : sm.sort.results.Perm sm.results := sortByKey_perm _ _

lemma sort_errors_perm : sm.sort.errors.Perm sm.errors := sortByKey_perm _ _

lemma sort_results_sorted : sm.sort.results.Pairwise (·.test ≤ ·.test) := sortByKey_sorted _ _

lemma sort_errors_sorted : sm.sort.errors.Pairwise (·.test ≤ ·.test) := sortByKey_sorted _ _

/-- A summary has failed exactly when it holds an error or a result that did not pass. -/
theorem failed_iff : sm.failed = true ↔ sm.errors ≠ [] ∨ ∃ r ∈ sm.results, r.passed = false := by
  simp [failed]

end Sorted

/-! ### Noting an outcome -/

/-- The error a summary notes for the test `key` whose run gave `o`: none for a result. -/
def errorOf (key : String) : Except Fault Result → Option TestError
  | .ok _ => none
  | .error e => some ⟨key, e.message⟩

section Note

variable (sm : Summary) (key : String) (o : Except Fault Result)

@[simp] lemma note_results : (sm.note key o).results = sm.results ++ o.toOption.toList := by
  cases o <;> simp [note, add, addError, Except.toOption]

@[simp] lemma note_errors : (sm.note key o).errors = sm.errors ++ (errorOf key o).toList := by
  cases o <;> simp [note, add, addError, errorOf]

end Note

end TestRig.Results.Summary
