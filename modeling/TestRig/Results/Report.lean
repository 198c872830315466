import TestRig.Results.Summary
import TestRig.Text.Width
import TestRig.Text.Quoted
import TestRig.Files.Path

/-!
The summary printed after a run: the ignored cases, then the failed cases with the output of
crashed executables and the tests that could not be run, then the totals and a last verdict,
`OK` or `FAILED`. A run that stopped after building prints one line saying so. The report is
plain text: a block of several lines has its tabs widened to four spaces and its lines padded
with spaces to the width of the widest.
-/

namespace TestRig.Results

open TestRig.Text

/-- A block of text as the terminal styling writes it. -/
def styledBlock (s : String) : String :=
  let cs := replaceAll (replaceAll s.toList ['\t'] [' ', ' ', ' ', ' ']) ['\r', '\n'] ['\n']
  let lines := (splitOn cs ['\n']).map String.ofList
  match lines with
  | [] | [_] => String.ofList cs
  | _ =>
    let widest := (lines.map displayWidth).foldl max 0
    "\n".intercalate (lines.map fun l => l ++ String.ofList (List.replicate (widest - displayWidth l) ' '))

def prefixLines (s pre : String) : String :=
  "\n".intercalate ((s.splitOn "\n").map (pre ++ ·))

/-- The lines that name a case: the file, the case, its line when known, and its message. -/
def caseLines (r : Result) (c : Case) : String :=
  "[" ++ Path.base r.source ++ "]\n  Test: " ++ c.name ++
    (if c.line > 0 then "\n  At line (" ++ intText c.line ++ ")" else "") ++
    (if c.message.isEmpty then "" else ": " ++ quote c.message)

/-- A section: a blank line, its heading, and its entries, each on its own lines. -/
def reportSection (heading : String) (entries : List String) : String :=
  if entries.isEmpty then ""
  else "\n" ++ styledBlock heading ++ "\n" ++ "\n".intercalate entries ++ "\n"

def ignoredEntries (s : Summary) : List String :=
  s.results.flatMap fun r => (r.cases.filter (·.status == ignoreStatus)).map (caseLines r)

/-- The failed cases with the output of crashed executables, then the tests that could not run. -/
def failedEntries (s : Summary) : List String :=
  let forResult (r : Result) : List String :=
    (r.cases.filter (·.status == failStatus)).map (caseLines r) ++
      (let out := trimBlank r.output
       if r.crashed && !out.isEmpty then [styledBlock (prefixLines out "    > ")] else [])
  s.results.flatMap forResult ++ s.errors.map fun e => "[" ++ e.test ++ "]\n  " ++ e.message

def Summary.report (s : Summary) : String :=
  if s.buildOnly then "\n" ++ styledBlock "BUILD COMPLETE (tests not run)" ++ "\n"
  else
    let t := s.totals
    let rule := String.ofList (List.replicate 20 '-')
    reportSection "IGNORED TEST SUMMARY" (ignoredEntries s) ++
    reportSection "FAILED TEST SUMMARY" (failedEntries s) ++
    "\n" ++ rule ++ "\n" ++ styledBlock "OVERALL TEST SUMMARY" ++ "\n" ++ rule ++ "\n" ++
    "TESTED:  " ++ intText t.tests ++ "\n" ++
    "PASSED:  " ++ intText t.passed ++ "\n" ++
    "FAILED:  " ++ intText t.failures ++ "\n" ++
    "IGNORED: " ++ intText t.ignored ++ "\n" ++
    (if s.errors.isEmpty then "" else "ERRORS:  " ++ toString s.errors.length ++ "\n") ++
    "\n" ++ styledBlock (if s.failed then "FAILED" else "OK") ++ "\n"

end TestRig.Results
