/-!
Command-line options of the programs, read the way the GNU tools read them: short options
after one dash, several to a word (`-nr`), a value attached (`-k2`) or in the next word
(`-k 2`); long options after two dashes, abbreviated to any prefix that names one option only,
with a value after `=` or in the next word; options anywhere among the operands; and `--`
ending the options.
-/

namespace TestRig.Shell

/-- Whether an option takes a value: never, always, or only when it is attached to the option
(`-iSUFFIX`, `--in-place=SUFFIX`). -/
inductive OptionValue where
  | none
  | required
  | optional
  deriving BEq, Inhabited

/-- An option a program reads: the name the program knows it by, its letter, its long name, and
whether it takes a value. -/
structure OptionSpec where
  name : String
  short : Option Char := none
  long : Option String := none
  value : OptionValue := .none
  deriving Inhabited

/-- An option found on a command line, by its name, with its value. -/
structure FoundOption where
  name : String
  value : Option String := none
  deriving Inhabited

/-- A command line read into its options, in order, and its operands. -/
structure CommandWords where
  options : List FoundOption := []
  operands : List String := []
  deriving Inhabited

def CommandWords.has (w : CommandWords) (name : String) : Bool :=
  w.options.any (·.name == name)

def CommandWords.values (w : CommandWords) (name : String) : List String :=
  w.options.filterMap fun o => if o.name == name then o.value else none

def CommandWords.last? (w : CommandWords) (name : String) : Option String :=
  (w.values name).getLast?

inductive WordFault where
  | invalid (c : Char)
  | unrecognized (word : String)
  | needsValue (c : Char)
  | longNeedsValue (name : String)
  | noValue (name : String)
  | ambiguous (word : String) (names : List String)
  deriving Inhabited

def WordFault.text (prog : String) : WordFault → String
  | .invalid c => prog ++ ": invalid option -- '" ++ String.singleton c ++ "'"
  | .unrecognized w => prog ++ ": unrecognized option '" ++ w ++ "'"
  | .needsValue c => prog ++ ": option requires an argument -- '" ++ String.singleton c ++ "'"
  | .longNeedsValue n => prog ++ ": option '--" ++ n ++ "' requires an argument"
  | .noValue n => prog ++ ": option '--" ++ n ++ "' doesn't allow an argument"
  | .ambiguous w ns =>
    prog ++ ": option '" ++ w ++ "' is ambiguous; possibilities:" ++ String.join (ns.map fun n => " '--" ++ n ++ "'")

structure WordRules where
  specs : List OptionSpec
  negativeNumbers : Bool := false
  stopAtOperand : Bool := false

def findLong (specs : List OptionSpec) (name : String) : Except (List String) (Option OptionSpec) :=
  match specs.find? fun s => s.long == some name with
  | some s => .ok (some s)
  | none =>
    let matching := specs.filter fun s => match s.long with
      | some l => l.startsWith name
      | none => false
    match matching with
    | [] => .ok none
    | s :: rest =>
      if rest.all (·.name == s.name) then .ok (some s)
      else .error (matching.filterMap (·.long))

def readCluster (specs : List OptionSpec) : Nat → List Char → List String → List FoundOption →
    List FoundOption × List String × Option WordFault
  | 0, _, rest, acc => (acc, rest, none)
  | _, [], rest, acc => (acc, rest, none)
  | n + 1, c :: cs, rest, acc =>
    match specs.find? (·.short == some c) with
    | none => (acc, rest, some (.invalid c))
    | some s =>
      match s.value with
      | .none => readCluster specs n cs rest ({ name := s.name } :: acc)
      | .optional =>
        ({ name := s.name, value := if cs.isEmpty then none else some (String.ofList cs) } :: acc, rest, none)
      | .required =>
        if !cs.isEmpty then ({ name := s.name, value := some (String.ofList cs) } :: acc, rest, none)
        else match rest with
          | v :: more => ({ name := s.name, value := some v } :: acc, more, none)
          | [] => (acc, [], some (.needsValue c))

def looksNegative (a : String) : Bool :=
  match a.toList with
  | '-' :: d :: _ => d.isDigit || d == '.'
  | _ => false

def scanWords (rules : WordRules) : Nat → List String → CommandWords → CommandWords × Option WordFault
  | 0, _, w => (w, none)
  | _, [], w => ({ w with options := w.options.reverse }, none)
  | n + 1, a :: rest, w =>
    let stop (f : WordFault) : CommandWords × Option WordFault := ({ w with options := w.options.reverse }, some f)
    if a == "--" then ({ options := w.options.reverse, operands := w.operands ++ rest }, none)
    else if a.startsWith "--" then
      let body := String.ofList (a.toList.drop 2)
      let (name, value) := match body.splitOn "=" with
        | [nm] => (nm, none)
        | nm :: vs => (nm, some ("=".intercalate vs))
        | [] => (body, none)
      match findLong rules.specs name with
      | .error names => stop (.ambiguous a names)
      | .ok none => stop (.unrecognized a)
      | .ok (some s) =>
        let long := s.long.getD name
        match s.value, value with
        | .none, some _ => stop (.noValue long)
        | .none, none => scanWords rules n rest { w with options := { name := s.name } :: w.options }
        | _, some v => scanWords rules n rest { w with options := { name := s.name, value := some v } :: w.options }
        | .optional, none => scanWords rules n rest { w with options := { name := s.name } :: w.options }
        | .required, none =>
          match rest with
          | v :: more => scanWords rules n more { w with options := { name := s.name, value := some v } :: w.options }
          | [] => stop (.longNeedsValue long)
    else if a.startsWith "-" && a.length > 1 && !(rules.negativeNumbers && looksNegative a) then
      match readCluster rules.specs (a.length + 1) (a.toList.drop 1) rest [] with
      | (found, rest, none) => scanWords rules n rest { w with options := found ++ w.options }
      | (found, _, some f) => ({ w with options := (found ++ w.options).reverse }, some f)
    else if rules.stopAtOperand then ({ options := w.options.reverse, operands := w.operands ++ a :: rest }, none)
    else scanWords rules n rest { w with operands := w.operands ++ [a] }

def scanWordsBy (rules : WordRules) (args : List String) : CommandWords × Option WordFault :=
  scanWords rules (args.length + 1) args {}

def scanCommandWords (specs : List OptionSpec) (args : List String) : CommandWords × Option WordFault :=
  scanWords { specs } (args.length + 1) args {}

def readCommandWords (specs : List OptionSpec) (args : List String) : Except WordFault CommandWords :=
  match scanCommandWords specs args with
  | (w, none) => .ok w
  | (_, some f) => .error f

def usageFault (prog : String) (f : WordFault) : String :=
  f.text prog ++ "\nTry '" ++ prog ++ " --help' for more information.\n"

def pickChoice {α : Type} (prog option : String) (choices : List (List String × α)) (v : String) :
    Except String α :=
  match choices.find? fun c => c.1.contains v with
  | some c => .ok c.2
  | none =>
    let hits := choices.filter fun c => c.1.any (·.startsWith v)
    match hits with
    | [c] => .ok c.2
    | _ =>
      let what := if hits.isEmpty then "invalid" else "ambiguous"
      .error (prog ++ ": " ++ what ++ " argument '" ++ v ++ "' for '--" ++ option ++ "'\n" ++
        "Valid arguments are:" ++
        String.join (choices.map fun c => "\n  - " ++ ", ".intercalate (c.1.map fun w => "'" ++ w ++ "'")) ++
        "\nTry '" ++ prog ++ " --help' for more information.\n")

end TestRig.Shell
