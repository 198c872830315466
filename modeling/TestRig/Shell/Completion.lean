import TestRig.Shell.Variables
import TestRig.Shell.Housekeeping

/-!
Bash's `compgen`: the words that complete a word, drawn from the lists its options name.

Each action (`-A name`, or a letter such as `-v` for variables) gives a list of names, of which
those that start with the word are kept; the actions come in bash's fixed order, whatever order
the options came in, then the files a pattern matches (`-G`), then the words of a list (`-W`).
-/

namespace TestRig.Shell

open TestRig.Files TestRig.Text

def computedVarNames : List String :=
  ["BASHPID", "BASH_ARGV0", "BASH_COMMAND", "BASH_SUBSHELL", "COMP_WORDBREAKS", "EPOCHREALTIME",
   "EPOCHSECONDS", "EUID", "HISTCMD", "HOSTNAME", "LINENO", "PPID", "RANDOM", "SECONDS", "SHELL",
   "SRANDOM", "UID"]

def Var.visible (v : Var) : Bool :=
  v.value?.isSome || (v.shape != .scalar && !v.declaredOnly)

def Proc.variableNames (p : Proc) : List String :=
  let own := (p.listedVars.filter Var.visible).map (·.name)
  (own ++ computedVarNames.filter fun n => !own.contains n).mergeSort (· ≤ ·)

def reservedWordList : List String :=
  ["if", "then", "else", "elif", "fi", "case", "esac", "for", "select", "while", "until", "do", "done",
   "in", "function", "time", "\x7b", "\x7d", "!", "[[", "]]", "coproc"]

def completionActions : List (String × Option Char) :=
  [("alias", some 'a'), ("arrayvar", none), ("binding", none), ("builtin", some 'b'), ("disabled", none),
   ("enabled", none), ("export", some 'e'), ("function", none), ("helptopic", none), ("hostname", none),
   ("job", some 'j'), ("keyword", some 'k'), ("running", none), ("setopt", none), ("shopt", none),
   ("signal", none), ("stopped", none), ("variable", some 'v'), ("command", some 'c'), ("file", some 'f'),
   ("user", some 'u'), ("group", some 'g'), ("service", some 's'), ("directory", some 'd')]

def Proc.actionNames (p : Proc) (fs : Tree) (action : String) : List String :=
  match action with
  | "alias" => p.aliases.map (·.1)
  | "arrayvar" => ((p.listedVars.filter fun v => v.shape != .scalar && !v.declaredOnly).map (·.name))
  | "builtin" => bashBuiltinNames
  | "disabled" => bashBuiltinNames.filter p.disabled.contains
  | "enabled" => bashBuiltinNames.filter fun b => !p.disabled.contains b
  | "export" => (p.listedVars.filter fun v => v.exported && v.value?.isSome).map (·.name)
  | "function" => p.sortedFunctions.map (·.1)
  | "helptopic" => helpTopics.map (·.name)
  | "keyword" => reservedWordList
  | "setopt" => bashOptionNames
  | "shopt" => shoptNames
  | "signal" => "EXIT" :: signalNames.map fun (_, n) => "SIG" ++ n
  | "variable" => p.variableNames
  | "command" =>
    let found := (programs ++ otherPrograms ++ ["bash", "dash", "sh"]).mergeSort (· ≤ ·)
    let dirs := match p.lookupVar "PATH" with
      | some path => (path.splitOn ":").filter programDirs.contains
      | none => []
    p.aliases.map (·.1) ++ reservedWordList ++ p.sortedFunctions.map (·.1) ++
      (bashBuiltinNames.filter fun b => !p.disabled.contains b) ++ dirs.flatMap fun _ => found
  | "file" | "directory" =>
    let names := ((fs.children (fs.resolve (toText "."))).map ofText).mergeSort (· ≤ ·)
    if action == "file" then names else names.filter fun n => fs.isDir (toText n)
  | _ => []

def filterMatches (filter word given : String) : Bool :=
  patternMatch (filter.replace "&" given) word

def runCompgen (p : Proc) (opts : List BuiltinOption) (args : List String) : Shell (Proc × Flow) := do
  let fs ← filesFrom p
  let given := args.getLast?.getD ""
  let named := opts.filterMap fun o => if o.letter == 'A' then o.value else none
  match named.find? fun a => !completionActions.any (·.1 == a) with
  | some bad => do
    complain p ("compgen: " ++ bad ++ ": invalid action name")
    pure ({ p with status := 2 }, .next)
  | none =>
    let chosen := completionActions.filter fun (a, letter) =>
      named.contains a || (letter.any fun c => opts.any (·.letter == c))
    let offered := chosen.flatMap fun (a, _) => (p.actionNames fs a).filter (·.startsWith given)
    let globbed := match opts.find? (·.letter == 'G') with
      | some o =>
        (globPaths fs (o.value.getD "") {}).filter (·.startsWith given)
      | none => []
    let listed := match opts.find? (·.letter == 'W') with
      | some o => (fieldsOf (o.value.getD "")).filter (·.startsWith given)
      | none => []
    let all := offered ++ globbed ++ listed
    let kept := match opts.find? (·.letter == 'X') with
      | some o =>
        let filter := o.value.getD ""
        if filter.startsWith "!" then all.filter fun w => filterMatches (filter.drop 1).toString w given
        else all.filter fun w => !filterMatches filter w given
      | none => all
    let lead := ((opts.find? (·.letter == 'P')).bind (·.value)).getD ""
    let suffix := ((opts.find? (·.letter == 'S')).bind (·.value)).getD ""
    emit p 1 (String.join (kept.map fun w => lead ++ w ++ suffix ++ "\n"))
    pure ({ p with status := if kept.isEmpty then 1 else 0 }, .next)

end TestRig.Shell
