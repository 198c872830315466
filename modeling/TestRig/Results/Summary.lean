import TestRig.Results.Basic

/-!
The summary of a run: the results of the tests that ran, in the order they were added, the
tests that could not be run with the reason, and whether the run stopped after building. The
totals add up the cases of every result; a case passed when it neither failed nor was ignored.
-/

namespace TestRig.Results

structure TestError where
  test : String
  message : String
  deriving Repr, Inhabited, BEq

structure Summary where
  results : List Result := []
  errors : List TestError := []
  buildOnly : Bool := false
  deriving Repr, Inhabited

structure Totals where
  tests : Int := 0
  passed : Int := 0
  failures : Int := 0
  ignored : Int := 0
  deriving Repr, Inhabited, BEq

namespace Summary

def add (s : Summary) (r : Result) : Summary := { s with results := s.results ++ [r] }

def addError (s : Summary) (test message : String) : Summary :=
  { s with errors := s.errors ++ [⟨test, message⟩] }

/-- Inserts into a list sorted by a key, after the elements with an equal key. -/
def insertByKey (key : α → String) (x : α) : List α → List α
  | [] => [x]
  | y :: ys => if key x < key y then x :: y :: ys else y :: insertByKey key x ys

/-- Sorts by a key, keeping elements with equal keys in the order they came. -/
def sortByKey (key : α → String) (xs : List α) : List α :=
  xs.foldl (fun acc x => insertByKey key x acc) []

/-- Orders the results and the errors by test name. -/
def sort (s : Summary) : Summary :=
  { s with results := sortByKey (·.test) s.results, errors := sortByKey (·.test) s.errors }

/-- The case counts summed over every result, in signed 64-bit words. -/
def totals (s : Summary) : Totals :=
  let tests := toWord ((s.results.map (·.total)).foldr (· + ·) 0)
  let failures := toWord ((s.results.map (·.failures)).foldr (· + ·) 0)
  let ignored := toWord ((s.results.map (·.ignored)).foldr (· + ·) 0)
  { tests, failures, ignored, passed := toWord (tests - failures - ignored) }

def failed (s : Summary) : Bool := !s.errors.isEmpty || s.results.any (!·.passed)

end Summary

end TestRig.Results
