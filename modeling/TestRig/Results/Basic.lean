import TestRig.Text.Chars
import TestRig.Text.Blank

/-!
The outcome of one test executable, read from what it prints. A test framework prints one line
per case, `file:line:name:STATUS` with an optional `:message`, and a final line of counts,
`N Tests F Failures I Ignored`. The counts line is trusted when present; without it the cases
are counted.
-/

namespace TestRig.Results

open TestRig.Text

def passStatus : String := "PASS"

def failStatus : String := "FAIL"

def ignoreStatus : String := "IGNORE"

/-- The name of the case added for an executable that ended abnormally. -/
def crashCase : String := "<crash>"

/-- One case: its name, the line of its test function, its status and the message after it. -/
structure Case where
  name : String := ""
  line : Int := 0
  status : String := ""
  message : String := ""
  deriving Repr, Inhabited, BEq

structure Result where
  test : String := ""
  source : String := ""
  total : Int := 0
  failures : Int := 0
  ignored : Int := 0
  crashed : Bool := false
  exitStatus : Int := 0
  duration : Int := 0
  cases : List Case := []
  output : String := ""
  deriving Repr, Inhabited, BEq

/-- Every case passed or was ignored, and the executable ended normally. -/
def Result.passed (r : Result) : Bool := r.failures == 0 && !r.crashed

/-- What running an executable gave: its output, its exit status, whether a signal ended it,
and how long it took. -/
structure Run where
  output : String
  exitStatus : Int
  signaled : Bool
  duration : Int := 0

/-! ### Reading the printed lines -/

/-- A run of decimal digits as a number, capped at the largest signed 64-bit integer. -/
def cappedNumber (ds : List Char) : Int :=
  min (digitsValue ds : Int) (Int.pow 2 63 - 1)

def toWord (n : Int) : Int := (n + Int.pow 2 63) % Int.pow 2 64 - Int.pow 2 63

/-- The number after a count, as a signed 64-bit word holds it. -/
def countSucc (n : Int) : Int := toWord (n + 1)

/-- A name of letters, digits and underscores, not starting with a digit, at the start of the
text; the rest after it. -/
def takeIdent : List Char → Option (List Char × List Char)
  | c :: rest =>
    if isAsciiLetter c || c == '_' then
      let more := rest.takeWhile isWordChar
      some (c :: more, rest.drop more.length)
    else none
  | [] => none

/-- The part of a case line after its file: `line:name:STATUS`, then the end or `:message`. -/
def caseTail (cs : List Char) : Option Case := do
  let digits := cs.takeWhile isDigit
  if digits.isEmpty then none
  let rest ← dropPrefix? (cs.drop digits.length) [':']
  let (name, rest) ← takeIdent rest
  let rest ← dropPrefix? rest [':']
  let (status, rest) ← [passStatus, failStatus, ignoreStatus].findSome? fun st =>
    (dropPrefix? rest st.toList).map fun r => (st, r)
  let message ← match rest with
    | [] => some ""
    | ':' :: msg => some (String.ofList (trim msg))
    | _ => none
  return { name := String.ofList name, line := cappedNumber digits, status, message }

/-- A case line: the file is the shortest non-empty text before a colon after which the rest
reads as a case. -/
def parseCase (line : List Char) : Option Case :=
  match line with
  | [] => none
  | c :: rest => go rest [c]
where
  go : List Char → List Char → Option Case
    | [], _ => none
    | ':' :: rest, file => (caseTail rest).orElse fun _ => go rest (file ++ [':'])
    | c :: rest, file => go rest (file ++ [c])

/-- The counts line, `N Tests F Failures I Ignored`, followed by anything. -/
def parseCounts (line : List Char) : Option (Int × Int × Int) := do
  let number (cs : List Char) : Option (Int × List Char) :=
    let ds := cs.takeWhile isDigit
    if ds.isEmpty then none else some (cappedNumber ds, cs.drop ds.length)
  let (tests, rest) ← number line
  let rest ← dropPrefix? rest " Tests ".toList
  let (failures, rest) ← number rest
  let rest ← dropPrefix? rest " Failures ".toList
  let (ignored, rest) ← number rest
  let _ ← dropPrefix? rest " Ignored".toList
  return (tests, failures, ignored)

/-- A printed line without the spaces and carriage returns at its end. -/
def trimLineEnd (line : List Char) : List Char :=
  trimRightBy (fun c => c == ' ' || c == '\r') line

/-- The cases printed, in order, and the last counts line. -/
def scanLines : List (List Char) → List Case × Option (Int × Int × Int)
  | [] => ([], none)
  | line :: rest =>
    let (cases, counts) := scanLines rest
    let line := trimLineEnd line
    match parseCase line with
    | some c => (c :: cases, counts)
    | none =>
      match counts with
      | some _ => (cases, counts)
      | none => (cases, parseCounts line)

def countStatus (cases : List Case) (status : String) : Int :=
  (cases.filter (·.status == status)).length

/-- The message of the case added for an executable that ended abnormally. -/
def crashMessage (run : Run) : String :=
  if run.signaled then "test executable was terminated by a signal"
  else "test executable produced no final test counts and exited with status " ++ intText run.exitStatus

/-- The result of a test executable from what it printed and how it ended. -/
def Result.ofRun (test source : String) (run : Run) : Result :=
  let (cases, counts) := scanLines (splitOn run.output.toList ['\n'])
  let (total, failures, ignored) := counts.getD
    (cases.length, countStatus cases failStatus, countStatus cases ignoreStatus)
  let r : Result := { test, source, total, failures, ignored, cases,
                      exitStatus := run.exitStatus, duration := run.duration }
  if run.signaled || counts.isNone then
    { r with crashed := true, failures := countSucc failures, total := countSucc total, output := run.output,
             cases := cases ++ [{ name := crashCase, status := failStatus, message := crashMessage run }] }
  else if !r.passed then { r with output := run.output }
  else r

/-- The result of an executable that could not be started: one failing `<crash>` case. -/
def Result.unrunnable (test source reason : String) : Result :=
  { test, source, total := 1, failures := 1, crashed := true,
    cases := [{ name := crashCase, status := failStatus,
                message := "test executable could not be run: " ++ reason }] }

/-! ### What a passing executable prints -/

/-- The text a test executable prints when every case passes: a line per case, numbered from
one, then the counts and `OK`. -/
def passingOutput (file : String) (cases : List String) : String :=
  String.join (cases.zipIdx.map fun (c, i) => file ++ ":" ++ toString (i + 1) ++ ":" ++ c ++ ":PASS\n") ++
  "\n-----------------------\n" ++ toString cases.length ++ " Tests 0 Failures 0 Ignored\nOK\n"

end TestRig.Results
