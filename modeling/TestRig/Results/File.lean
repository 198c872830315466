import TestRig.Results.Basic
import TestRig.Yaml.Emit
import TestRig.Yaml.Decode
import TestRig.Yaml.Compose
import TestRig.Files.Tree

/-!
Result files: one YAML document per test, written at the test's pass path or fail path by
whether it passed, with the file at the other path removed so that only the current verdict is
left. The fields are written in a fixed order; `crashed`, a case's `message` and `output` are
left out when empty. Durations are written as text such as `0s`.
-/

namespace TestRig.Results

open TestRig.Yaml TestRig.Files TestRig.Text

/-! ### Writing -/

/-- A duration in nanoseconds as text: hours, minutes and seconds with a decimal fraction, or
a single smaller unit below a second, `0s` for zero. -/
def durationText (d : Int) : String :=
  let sign := if d < 0 then "-" else ""
  let n := d.natAbs
  if n == 0 then "0s"
  else if n < 1000 then sign ++ toString n ++ "ns"
  else if n < 1000000 then sign ++ fraction n 1000 ++ "µs"
  else if n < 1000000000 then sign ++ fraction n 1000000 ++ "ms"
  else
    let secs := n / 1000000000
    let rest := n % 1000000000
    let h := secs / 3600
    let m := (secs / 60) % 60
    let s := secs % 60
    let secText := fraction (s * 1000000000 + rest) 1000000000 ++ "s"
    sign ++ (if h > 0 then toString h ++ "h" ++ toString m ++ "m"
             else if m > 0 then toString m ++ "m" else "") ++ secText
where
  /-- A number of units as a decimal, trailing zeros of the fraction dropped. -/
  fraction (n unit : Nat) : String :=
    let whole := n / unit
    let frac := n % unit
    if frac == 0 then toString whole
    else
      let width := (toString unit).length - 1
      let digits := (toString frac).toList
      let padded := List.replicate (width - digits.length) '0' ++ digits
      let trimmed := (padded.reverse.dropWhile (· == '0')).reverse
      toString whole ++ "." ++ String.ofList trimmed

def Case.toDoc (c : Case) : Doc :=
  .map ([(.text "name", .text c.name), (.text "line", .atom (intText c.line)),
         (.text "status", .text c.status)] ++
        (if c.message.isEmpty then [] else [(.text "message", .text c.message)]))

def Result.toDoc (r : Result) : Doc :=
  .map ([(.text "test", .text r.test), (.text "source", .text r.source),
         (.text "total", .atom (intText r.total)), (.text "failures", .atom (intText r.failures)),
         (.text "ignored", .atom (intText r.ignored))] ++
        (if r.crashed then [(.text "crashed", .atom "true")] else []) ++
        [(.text "exit_status", .atom (intText r.exitStatus)),
         (.text "duration", .text (durationText r.duration)),
         (.text "cases", .seq (r.cases.map Case.toDoc))] ++
        (if r.output.isEmpty then [] else [(.text "output", .text r.output)]))

def Result.fileText (r : Result) : String := r.toDoc.render

def Result.pathFor (r : Result) (passPath failPath : String) : String :=
  if r.passed then passPath else failPath

/-- Writes a result at its path, making the directory, and removes a stale file at the other
path. -/
def Result.store (r : Result) (passPath failPath : String) (t : Tree) : Except String String × Tree :=
  let path := r.pathFor passPath failPath
  let other := if path == failPath then passPath else failPath
  match t.mkdirAll (Path.dir path) with
  | .error e => (.error ("failed to create results directory: " ++ e.message), t)
  | .ok t =>
    match t.writeText path r.fileText with
    | .error e => (.error ("failed to write result '" ++ path ++ "': " ++ e.message), t)
    | .ok t =>
      match t.remove other with
      | .ok t => (.ok path, t)
      | .error e =>
        if e.errno == .notExist then (.ok path, t)
        else (.error ("failed to remove stale result '" ++ other ++ "': " ++ e.message), t)

/-- Writes a result at its path, making the directory, and removes a stale file at the other
path; returns the path written and the files after. -/
def Result.write (r : Result) (passPath failPath : String) (t : Tree) : Except String (String × Tree) :=
  match r.store passPath failPath t with
  | (.ok path, t) => .ok (path, t)
  | (.error e, _) => .error e

/-! ### Reading -/

def caseTarget : Target Case :=
  .record "results.Case" {}
    [.of "name" (.string) (·.name) fun c v => { c with name := v },
     .of "line" (.int) (·.line) fun c v => { c with line := v },
     .of "status" (.string "results.Status") (·.status) fun c v => { c with status := v },
     .of "message" (.string) (·.message) fun c v => { c with message := v }]

def resultTarget : Target Result :=
  .record "results.Result" {}
    [.of "test" (.string) (·.test) fun r v => { r with test := v },
     .of "source" (.string) (·.source) fun r v => { r with source := v },
     .of "total" (.int) (·.total) fun r v => { r with total := v },
     .of "failures" (.int) (·.failures) fun r v => { r with failures := v },
     .of "ignored" (.int) (·.ignored) fun r v => { r with ignored := v },
     .of "crashed" .bool (·.crashed) fun r v => { r with crashed := v },
     .of "exit_status" (.int) (·.exitStatus) fun r v => { r with exitStatus := v },
     .of "duration" .duration (·.duration) fun r v => { r with duration := v },
     .of "cases" (.list caseTarget) (·.cases) fun r v => { r with cases := v },
     .of "output" (.string) (·.output) fun r v => { r with output := v }]

/-- Reads a result from the text of a result file. -/
def Result.ofText (text : String) : Except String Result := do
  match ← compose text with
  | none => return {}
  | some root => decodeWith resultTarget root {}

def Result.read (path : String) (t : Tree) : Except String Result := do
  let data ← (t.readFile path).mapError fun e => "failed to read result '" ++ path ++ "': " ++ e.message
  (Yaml.textOf data >>= Result.ofText).mapError fun e => "failed to decode result '" ++ path ++ "': " ++ e

end TestRig.Results
