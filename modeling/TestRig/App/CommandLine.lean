import TestRig.App.Options
import TestRig.Text.Quoted

/-!
The command line: `unitgrid [options] [TEST...]`. Options are `--name value`, `--name=value`,
or for the project file also `-p value`, `-pvalue` and `-p=value`; the switches `--build-only`
and `--clean` take an optional `=value` read as a boolean. Options and test names may be mixed,
and `--` ends the options. `-h` and `--help` ask for the usage text.
-/

namespace TestRig.App

open TestRig.Text

inductive Invocation where
  | help
  | run (o : Options)
  /-- A failure, with the exit status and message. -/
  | exit (code : Nat) (message : String)
  deriving Inhabited, Repr

def usageText : String :=
  "\nunitgrid - builds and runs C unit tests with Unity and CMock.\n\nUsage:\n  unitgrid [options] [TEST...]\n\n" ++
  "Arguments:\n  TEST\n    A test to run, by name (test_uart) or by path. All tests run when none\n    are given.\n\n" ++
  "Options:\n" ++
  "  -p, --project string      Project file (.yml or .hcl) or a directory of .hcl files. (default \"project.yml\")\n" ++
  "      --log-format string   Log output format. Options: 'text' or 'json'. (default \"text\")\n" ++
  "      --log-level string    Set the logging level. Options: 'debug', 'info', 'warn', 'error'. (default \"info\")\n" ++
  "      --build-only          Build the test executables without running them.\n" ++
  "      --clean               Remove the build context's artifacts before building.\n"

inductive Flag where
  | project
  | logFormat
  | logLevel
  | buildOnly
  | clean
  deriving DecidableEq, Repr, Inhabited

def Flag.ofName : String → Option Flag
  | "project" => some .project
  | "log-format" => some .logFormat
  | "log-level" => some .logLevel
  | "build-only" => some .buildOnly
  | "clean" => some .clean
  | _ => none

def Flag.name : Flag → String
  | .project => "project"
  | .logFormat => "log-format"
  | .logLevel => "log-level"
  | .buildOnly => "build-only"
  | .clean => "clean"

def Flag.isSwitch (f : Flag) : Bool := f == .buildOnly || f == .clean

def parseBoolText (s : String) : Option Bool :=
  if ["1", "t", "T", "TRUE", "true", "True"].contains s then some true
  else if ["0", "f", "F", "FALSE", "false", "False"].contains s then some false
  else none

structure Given where
  project : String := defaultProjectFile
  logFormat : String := "text"
  logLevel : String := "info"
  buildOnly : Bool := false
  clean : Bool := false
  tests : List String := []

/-- Sets a flag's value; a switch's value must read as a boolean. -/
def Given.set (g : Given) (f : Flag) (v : String) : Except String Given :=
  let bad := "invalid argument " ++ quote v ++ " for " ++
    quote (if f == .project then "-p, --project" else "--" ++ f.name) ++
    " flag: strconv.ParseBool: parsing " ++ quote v ++ ": invalid syntax"
  match f with
  | .project => .ok { g with project := v }
  | .logFormat => .ok { g with logFormat := v }
  | .logLevel => .ok { g with logLevel := v }
  | .buildOnly => match parseBoolText v with
    | some b => .ok { g with buildOnly := b }
    | none => .error bad
  | .clean => match parseBoolText v with
    | some b => .ok { g with clean := b }
    | none => .error bad

/-- A single byte quoted as a character literal. -/
def quoteByte (b : Nat) : String :=
  let c := Char.ofNat b
  if b == 39 then "'\\''"
  else if b == 92 then "'\\\\'"
  else if (32 ≤ b && b < 127) || (161 ≤ b && b ≤ 255 && b != 173) then "'" ++ c.toString ++ "'"
  else if b < 128 then "'" ++ String.ofList ((quote c.toString).toList.drop 1 |>.dropLast) ++ "'"
  else "'\\u00" ++ String.ofList ((Nat.toDigits 16 b)) ++ "'"

/-- Reads the command line's arguments: a failure message, a request for help, or the
values. -/
def readArgs : Nat → List String → Given → Except (Option String) Given
  | 0, _, g => .ok g
  | _, [], g => .ok g
  | fuel + 1, s :: rest, g =>
    let cs := s.toList
    match cs with
    | '-' :: '-' :: [] => .ok { g with tests := g.tests ++ rest }
    | '-' :: '-' :: name =>
      if name.head? == some '-' || name.head? == some '=' then .error (some ("bad flag syntax: " ++ s))
      else
        let (n, value) := match name.findIdx? (· == '=') with
          | some i => (String.ofList (name.take i), some (String.ofList (name.drop (i + 1))))
          | none => (String.ofList name, none)
        match Flag.ofName n with
        | none => if n == "help" then .error none else .error (some ("unknown flag: --" ++ n))
        | some f =>
          let taken : Option (String × List String) := match value with
            | some v => some (v, rest)
            | none => if f.isSwitch then some ("true", rest)
              else match rest with
                | v :: r => some (v, r)
                | [] => none
          match taken with
          | none => .error (some ("flag needs an argument: " ++ s))
          | some (v, rest) =>
            match g.set f v with
            | .ok g => readArgs fuel rest g
            | .error e => .error (some e)
    | '-' :: c :: more =>
      let shorts := c :: more
      let shown := String.ofList shorts
      if c == 'p' then
        let taken : Option (String × List String) := match more with
          | '=' :: v@(_ :: _) => some (String.ofList v, rest)
          | _ :: _ => some (String.ofList more, rest)
          | [] => match rest with
            | v :: r => some (v, r)
            | [] => none
        match taken with
        | none => .error (some ("flag needs an argument: 'p' in -" ++ shown))
        | some (v, rest) => readArgs fuel rest { g with project := v }
      else if c == 'h' then .error none
      else
        let b := (c.toString.toUTF8.toList.headD 0).toNat
        .error (some ("unknown shorthand flag: " ++ quoteByte b ++ " in -" ++ shown))
    | _ => readArgs fuel rest { g with tests := g.tests ++ [s] }

def parseCommandLine (args : List String) : Invocation :=
  match readArgs (args.length + 1) args {} with
  | .error none => .help
  | .error (some e) => .exit 2 e
  | .ok g =>
    let format := Text.toLower g.logFormat
    let level := Text.toLower g.logLevel
    if format != "text" && format != "json" then
      .exit 2 "invalid log-format: must be 'text' or 'json'"
    else if !(["debug", "info", "warn", "error"].contains level) then
      .exit 2 "invalid log-level: must be 'debug', 'info', 'warn', or 'error'"
    else
      match ({ projectFile := g.project, logFormat := format, logLevel := level,
               buildOnly := g.buildOnly, clean := g.clean, tests := g.tests } : Options).normalize with
      | .ok o => .run o
      | .error e => .exit 2 e

end TestRig.App
