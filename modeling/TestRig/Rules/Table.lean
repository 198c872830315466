import TestRig.Regex.Machine
import TestRig.Files.Path
import TestRig.Fault
import TestRig.Text.Blank
import TestRig.Text.Case
import TestRig.Text.Quoted

/-!
Rule tables: ordered rules that give the values (flags, defines, search paths) that apply to a
file. A table is read in one of two modes.

* First match: a rule whose key is the file's name, with or without its extension, wins; then
  the first catch-all key (`*`, `.*` or `/.*/`); then the first key that, read as a regular
  expression, matches the path somewhere.
-/

namespace TestRig.Rules

open TestRig.Text TestRig.Regex

/-- How a table is read. Codes other than those of the two modes read as first match. -/
inductive Mode where
  | firstMatch
  | union
  | other (code : Int)
  deriving DecidableEq, Repr, Inhabited

def Mode.name : Mode → String
  | .firstMatch => "first"
  | .union => "union"
  | .other n => "Mode(" ++ intText n ++ ")"

/-- Reads a mode by name, ignoring case and surrounding blanks; no name gives the fallback. -/
def parseMode (s : String) (fallback : Mode) : Except String Mode :=
  match toLower (trimBlank s) with
  | "" => .ok fallback
  | "first" | "first-match" | "first_match" => .ok .firstMatch
  | "union" | "all" => .ok .union
  | _ => .error ("unknown matcher mode " ++ quote s)

/-- A rule: a key and the values it gives. A missing value list is told apart from an empty
one, since only the first is a configuration mistake. -/
structure Rule where
  key : String
  values : Option (List String)
  deriving Repr, Inhabited, BEq

/-- The values of a rule; a missing list gives none. -/
def Rule.valueList (r : Rule) : List String := r.values.getD []

/-- An ordered table of rules, named by the configuration path it was read from. -/
structure Table where
  name : String
  mode : Mode
  rules : List Rule
  deriving Repr, Inhabited

/-- The first rule with a missing value list or a blank key, as a configuration failure. -/
def Table.validate (t : Table) : Option Fault :=
  t.rules.findSome? fun r =>
    if r.values.isNone then some (.config t.name ("matcher key '" ++ r.key ++ "' has no value list"))
    else if isBlankText r.key then some (.config t.name "matcher key must not be empty")
    else none

/-! ### Keys -/

/-- A key delimited by slashes is a regular expression. -/
def isRegexLiteral (key : String) : Bool :=
  key.length ≥ 2 && key.startsWith "/" && key.endsWith "/"

def isCatchAll (key : String) : Bool :=
  let k := trimBlank key
  k == "*" || k == ".*" || k == "/.*/"

/-- The key read as a regular expression, its slashes dropped; none when it does not compile. -/
def keyProgram? (key : String) : Option Program :=
  let body := if isRegexLiteral key then String.ofList ((key.toList.drop 1).dropLast) else key
  (Program.ofString body).toOption

/-- The key matches the path as a regular expression. -/
def regexMatches (key path : String) : Bool :=
  match keyProgram? key with
  | some p => p.test path
  | none => false

/-- A key with `*` read as a glob: every other character stands for itself, `*` for any run. -/
def globProgram (key : String) : Program :=
  let pattern := String.ofList (replaceAll (quoteMeta key).toList ['\\', '*'] ['.', '*'])
  (Program.ofString pattern).toOption.getD Program.never

/-- A union key that is a pattern matches: a `/.../` expression, or a glob. -/
def matchesPattern (key path : String) : Bool :=
  if isRegexLiteral key then regexMatches key path
  else if key.toList.contains '*' then (globProgram key).test path
  else false

def unionKeyMatches (key path : String) : Bool :=
  let k := trimBlank key
  k == "*" || contains path.toList k.toList || matchesPattern k path

/-! ### Matching -/

/-- The values of the first rule that a first-match table picks for the path. -/
def Table.firstMatch (t : Table) (path : String) : List String :=
  let base := Path.base path
  let stem := Path.stem path
  match t.rules.find? (fun r => r.key == stem || r.key == base) with
  | some r => r.valueList
  | none =>
    match t.rules.find? (fun r => isCatchAll r.key) with
    | some r => r.valueList
    | none =>
      match t.rules.find? (fun r => !isCatchAll r.key && regexMatches r.key path) with
      | some r => r.valueList
      | none => []

/-- The values of every rule of a union table whose key matches the path, in order. -/
def Table.union (t : Table) (path : String) : List String :=
  t.rules.flatMap fun r => if unionKeyMatches r.key path then r.valueList else []

/-- The values a table gives a path, by its mode. -/
def Table.lookup (t : Table) (path : String) : List String :=
  match t.mode with
  | .union => t.union path
  | _ => t.firstMatch path

/-- The values a table that may be absent gives a path; no table gives none. -/
def lookupIn (t : Option Table) (path : String) : List String :=
  match t with
  | some t => t.lookup path
  | none => []

end TestRig.Rules
