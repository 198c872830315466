import TestRig.Shell.Process

/-!
# The options of the builtins

How each shell reads the options of its builtins before the builtin looks at its arguments.

* `scanBuiltinOptions` reads option words from the front of the arguments: a word that starts
  with `-` (or `+`, for the builtins that take both) and has more after it holds option
  letters; `--` ends the options and is dropped; the first other word ends them and is kept.
-/

namespace TestRig.Shell

/-- How a builtin takes options: the letters it knows, each followed by `:` when it takes a
value, whether `+` also starts options, and its usage line in bash. -/
structure BuiltinSyntax where
  letters : String
  plus : Bool := false
  usage : String := ""
  deriving Inhabited

/-- An option given to a builtin: its letter, whether `+` gave it, and its value. -/
structure BuiltinOption where
  letter : Char
  plus : Bool := false
  value : Option String := none
  deriving Inhabited, BEq

/-- Why the options of a builtin could not be read, with the option as written (`-Z`). -/
inductive OptionFault where
  | unknown (option : String)
  | needsValue (option : String)
  deriving Inhabited, BEq

def knowsLetter (letters : String) (c : Char) : Bool := c != ':' && letters.contains c

def takesValue (letters : String) (c : Char) : Bool :=
  match letters.toList.dropWhile (· != c) with
  | _ :: ':' :: _ => true
  | _ => false

def scanLetters (letters : String) (sign : Char) :
    List Char → List String → List BuiltinOption → Except OptionFault (List BuiltinOption × List String)
  | [], rest, acc => .ok (acc, rest)
  | c :: more, rest, acc =>
    let option := String.ofList [sign, c]
    if !knowsLetter letters c then .error (.unknown option)
    else if takesValue letters c then
      if !more.isEmpty then .ok ({ letter := c, plus := sign == '+', value := some (String.ofList more) } :: acc, rest)
      else match rest with
        | v :: r => .ok ({ letter := c, plus := sign == '+', value := some v } :: acc, r)
        | [] => .error (.needsValue option)
    else scanLetters letters sign more rest ({ letter := c, plus := sign == '+' } :: acc)

def scanBuiltinOptions (letters : String) (plus : Bool) :
    Nat → List String → List BuiltinOption → Except OptionFault (List BuiltinOption × List String)
  | 0, words, acc => .ok (acc.reverse, words)
  | _, [], acc => .ok (acc.reverse, [])
  | n + 1, w :: rest, acc =>
    match w.toList with
    | ['-', '-'] => .ok (acc.reverse, rest)
    | sign :: c :: more =>
      if sign == '-' || (plus && sign == '+') then
        match scanLetters letters sign (c :: more) rest acc with
        | .ok (acc, rest) => scanBuiltinOptions letters plus n rest acc
        | .error f => .error f
      else .ok (acc.reverse, w :: rest)
    | _ => .ok (acc.reverse, w :: rest)

def BuiltinSyntax.scan (s : BuiltinSyntax) (args : List String) :
    Except OptionFault (List BuiltinOption × List String) :=
  scanBuiltinOptions s.letters s.plus (args.length + 1) args []

def declareLetters : String := "acfgilnprtuxAFGI"

def bashBuiltinSyntax? : String → Option BuiltinSyntax
  | "alias" => some { letters := "p", usage := "alias [-p] [name[=value] ... ]" }
  | "bg" => some { letters := "", usage := "bg [job_spec ...]" }
  | "builtin" => some { letters := "", usage := "builtin [shell-builtin [arg ...]]" }
  | "cd" => some { letters := "eLP", usage := "cd [-L|[-P [-e]] [-@]] [dir]" }
  | "command" => some { letters := "pvV", usage := "command [-pVv] command [arg ...]" }
  | "compgen" => some { letters := "abcdefgjksuvo:A:G:W:F:C:X:P:S:", usage := "compgen [-abcdefgjksuv] [-o option] [-A action] [-G globpat] [-W wordlist] [-F function] [-C command] [-X filterpat] [-P prefix] [-S suffix] [word]" }
  | "complete" => some { letters := "abcdefgjksuvprDEIo:A:G:W:F:C:X:P:S:", usage := "complete [-abcdefgjksuv] [-pr] [-DEI] [-o option] [-A action] [-G globpat] [-W wordlist] [-F function] [-C command] [-X filterpat] [-P prefix] [-S suffix] [name ...]" }
  | "declare" => some { letters := declareLetters, plus := true, usage := "declare [-aAfFgiIlnrtux] [name[=value] ...] or declare -p [-aAfFilnrtux] [name ...]" }
  | "disown" => some { letters := "ahr", usage := "disown [-h] [-ar] [jobspec ... | pid ...]" }
  | "enable" => some { letters := "adnpsf:", usage := "enable [-a] [-dnps] [-f filename] [name ...]" }
  | "eval" => some { letters := "", usage := "eval [arg ...]" }
  | "exec" => some { letters := "cla:", usage := "exec [-cl] [-a name] [command [argument ...]] [redirection ...]" }
  | "export" => some { letters := "fnp", usage := "export [-fn] [name[=value] ...] or export -p" }
  | "fc" => some { letters := "e:lnrs", usage := "fc [-e ename] [-lnr] [first] [last] or fc -s [pat=rep] [command]" }
  | "fg" => some { letters := "", usage := "fg [job_spec]" }
  | "getopts" => some { letters := "", usage := "getopts optstring name [arg ...]" }
  | "hash" => some { letters := "dlp:rt", usage := "hash [-lr] [-p pathname] [-dt] [name ...]" }
  | "help" => some { letters := "dms", usage := "help [-dms] [pattern ...]" }
  | "history" => some { letters := "acd:npsrw", usage := "history [-c] [-d offset] [n] or history -anrw [filename] or history -ps arg [arg...]" }
  | "jobs" => some { letters := "lpnxrs", usage := "jobs [-lnprs] [jobspec ...] or jobs -x command [args]" }
  | "local" => some { letters := declareLetters, plus := true, usage := "local [option] name[=value] ..." }
  | "mapfile" => some { letters := "d:u:n:O:tC:c:s:", usage := "mapfile [-d delim] [-n count] [-O origin] [-s count] [-t] [-u fd] [-C callback] [-c quantum] [array]" }
  | "pwd" => some { letters := "LP", usage := "pwd [-LP]" }
  | "read" => some { letters := "ersa:d:i:n:N:p:t:u:", usage := "read [-ers] [-a array] [-d delim] [-i text] [-n nchars] [-N nchars] [-p prompt] [-t timeout] [-u fd] [name ...]" }
  | "readarray" => some { letters := "d:u:n:O:tC:c:s:", usage := "readarray [-d delim] [-n count] [-O origin] [-s count] [-t] [-u fd] [-C callback] [-c quantum] [array]" }
  | "readonly" => some { letters := "aAfnp", usage := "readonly [-aAf] [name[=value] ...] or readonly -p" }
  | "shopt" => some { letters := "psuoq", usage := "shopt [-pqsu] [-o] [optname ...]" }
  | "source" => some { letters := "", usage := "source filename [arguments]" }
  | "." => some { letters := "", usage := ". filename [arguments]" }
  | "suspend" => some { letters := "f", usage := "suspend [-f]" }
  | "times" => some { letters := "", usage := "times" }
  | "trap" => some { letters := "lp", usage := "trap [-lp] [[arg] signal_spec ...]" }
  | "type" => some { letters := "afptP", usage := "type [-afptP] name [name ...]" }
  | "typeset" => some { letters := declareLetters, plus := true, usage := "typeset [-aAfFgiIlnrtux] name[=value] ... or typeset -p [-aAfFilnrtux] [name ...]" }
  | "ulimit" => some { letters := "SHabcdefiklmnpqrstuvxPRT", usage := "ulimit [-SHabcdefiklmnpqrstuvxPRT] [limit]" }
  | "umask" => some { letters := "Sp", usage := "umask [-p] [-S] [mode]" }
  | "unalias" => some { letters := "a", usage := "unalias [-a] name [name ...]" }
  | "unset" => some { letters := "fnv", usage := "unset [-f] [-v] [-n] [name ...]" }
  | "wait" => some { letters := "fnp:", usage := "wait [-fn] [-p var] [id ...]" }
  | _ => none

def lightBuiltinSyntax? : String → Option BuiltinSyntax
  | "cd" | "pwd" => some { letters := "LP" }
  | "command" => some { letters := "pvV" }
  | "export" | "readonly" => some { letters := "p" }
  | "hash" => some { letters := "rv" }
  | "jobs" => some { letters := "lp" }
  | "printf" | "trap" | "wait" | "." => some { letters := "" }
  | "read" => some { letters := "p:r" }
  | "ulimit" => some { letters := "HSatfdscmlvnrpw" }
  | "umask" => some { letters := "S" }
  | "unalias" => some { letters := "a" }
  | "unset" => some { letters := "vf" }
  | _ => none

def Dialect.builtinSyntax? : Dialect → String → Option BuiltinSyntax
  | .bash => bashBuiltinSyntax?
  | .dash => lightBuiltinSyntax?

def OptionFault.message (d : Dialect) : OptionFault → String
  | .unknown o => match d with
    | .bash => o ++ ": invalid option"
    | .dash => "Illegal option " ++ o
  | .needsValue o => match d with
    | .bash => o ++ ": option requires an argument"
    | .dash => "No arg for " ++ o ++ " option"

end TestRig.Shell
