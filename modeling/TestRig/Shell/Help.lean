import TestRig.Shell.Builtins

/-!
Bash's `help`: what it says of each of its builtins and compound commands. Each topic has a
name, a synopsis (its usage line) and a description whose first line sums it up.

`help` matches its words against the names, as patterns and then, when a pattern matches none,
as the starts of names: `-s` writes the synopses, `-d` the first lines, and otherwise each topic
is written whole, its description indented by four columns.
-/

namespace TestRig.Shell

/-- A topic of bash's `help`: its name, its synopsis, and the lines of its description. -/
structure HelpTopic where
  name : String
  synopsis : String
  text : String

def helpTopics : List HelpTopic := [
  ⟨"%", "job_spec [&]",
    "Resume job in foreground.\n\nEquivalent to the JOB_SPEC argument to the `fg' command.  Resume a\nstopped or background job.  JOB_SPEC can specify either a job name\nor a job number.  Following JOB_SPEC with a `&' places the job in\nthe background, as if the job specification had been supplied as an\nargument to `bg'.\n\nExit Status:\nReturns the status of the resumed job."⟩,
  ⟨"(( ... ))", "(( expression ))",
    "Evaluate arithmetic expression.\n\nThe EXPRESSION is evaluated according to the rules for arithmetic\nevaluation.  Equivalent to `let \"EXPRESSION\"'.\n\nExit Status:\nReturns 1 if EXPRESSION evaluates to 0; returns 0 otherwise."⟩,
  ⟨".", ". filename [arguments]",
    "Execute commands from a file in the current shell.\n\nRead and execute commands from FILENAME in the current shell.  The\nentries in $PATH are used to find the directory containing FILENAME.\nIf any ARGUMENTS are supplied, they become the positional parameters\nwhen FILENAME is executed.\n\nExit Status:\nReturns the status of the last command executed in FILENAME; fails if\nFILENAME cannot be read."⟩,
  ⟨":", ":",
    "Null command.\n\nNo effect; the command does nothing.\n\nExit Status:\nAlways succeeds."⟩,
  ⟨"[", "[ arg... ]",
    "Evaluate conditional expression.\n\nThis is a synonym for the \"test\" builtin, but the last argument must\nbe a literal `]', to match the opening `['."⟩,
  ⟨"[[ ... ]]", "[[ expression ]]",
    "Execute conditional command.\n\nReturns a status of 0 or 1 depending on the evaluation of the conditional\nexpression EXPRESSION.  Expressions are composed of the same primaries used\nby the `test' builtin, and may be combined using the following operators:\n\n  ( EXPRESSION )\tReturns the value of EXPRESSION\n  ! EXPRESSION\t\tTrue if EXPRESSION is false; else false\n  EXPR1 && EXPR2\tTrue if both EXPR1 and EXPR2 are true; else false\n  EXPR1 || EXPR2\tTrue if either EXPR1 or EXPR2 is true; else false\n\nWhen the `==' and `!=' operators are used, the string to the right of\nthe operator is used as a pattern and pattern matching is performed.\nWhen the `=~' operator is used, the string to the right of the operator\nis matched as a regular expression.\n\nThe && and || operators do not evaluate EXPR2 if EXPR1 is sufficient to\ndetermine the expression's value.\n\nExit Status:\n0 or 1 depending on value of EXPRESSION."⟩,
  ⟨"alias", "alias [-p] [name[=value] ... ]",
    "Define or display aliases.\n\nWithout arguments, `alias' prints the list of aliases in the reusable\nform `alias NAME=VALUE' on standard output.\n\nOtherwise, an alias is defined for each NAME whose VALUE is given.\nA trailing space in VALUE causes the next word to be checked for\nalias substitution when the alias is expanded.\n\nOptions:\n  -p\tprint all defined aliases in a reusable format\n\nExit Status:\nalias returns true unless a NAME is supplied for which no alias has been\ndefined."⟩,
  ⟨"bg", "bg [job_spec ...]",
    "Move jobs to the background.\n\nPlace the jobs identified by each JOB_SPEC in the background, as if they\nhad been started with `&'.  If JOB_SPEC is not present, the shell's notion\nof the current job is used.\n\nExit Status:\nReturns success unless job control is not enabled or an error occurs."⟩,
  ⟨"bind", "bind [-lpsvPSVX] [-m keymap] [-f filename] [-q name] [-u name] [-r keyseq] [-x keyseq:shell-command] [keyseq:readline-function or readline-command]",
    "Set Readline key bindings and variables.\n\nBind a key sequence to a Readline function or a macro, or set a\nReadline variable.  The non-option argument syntax is equivalent to\nthat found in ~/.inputrc, but must be passed as a single argument:\ne.g., bind '\"\\C-x\\C-r\": re-read-init-file'.\n\nOptions:\n  -m  keymap         Use KEYMAP as the keymap for the duration of this\n                     command.  Acceptable keymap names are emacs,\n                     emacs-standard, emacs-meta, emacs-ctlx, vi, vi-move,\n                     vi-command, and vi-insert.\n  -l                 List names of functions.\n  -P                 List function names and bindings.\n  -p                 List functions and bindings in a form that can be\n                     reused as input.\n  -S                 List key sequences that invoke macros and their values\n  -s                 List key sequences that invoke macros and their values\n                     in a form that can be reused as input.\n  -V                 List variable names and values\n  -v                 List variable names and values in a form that can\n                     be reused as input.\n  -q  function-name  Query about which keys invoke the named function.\n  -u  function-name  Unbind all keys which are bound to the named function.\n  -r  keyseq         Remove the binding for KEYSEQ.\n  -f  filename       Read key bindings from FILENAME.\n  -x  keyseq:shell-command\tCause SHELL-COMMAND to be executed when\n\t\t\t\tKEYSEQ is entered.\n  -X                 List key sequences bound with -x and associated commands\n                     in a form that can be reused as input.\n\nExit Status:\nbind returns 0 unless an unrecognized option is given or an error occurs."⟩,
  ⟨"break", "break [n]",
    "Exit for, while, or until loops.\n\nExit a FOR, WHILE or UNTIL loop.  If N is specified, break N enclosing\nloops.\n\nExit Status:\nThe exit status is 0 unless N is not greater than or equal to 1."⟩,
  ⟨"builtin", "builtin [shell-builtin [arg ...]]",
    "Execute shell builtins.\n\nExecute SHELL-BUILTIN with arguments ARGs without performing command\nlookup.  This is useful when you wish to reimplement a shell builtin\nas a shell function, but need to execute the builtin within the function.\n\nExit Status:\nReturns the exit status of SHELL-BUILTIN, or false if SHELL-BUILTIN is\nnot a shell builtin."⟩,
  ⟨"caller", "caller [expr]",
    "Return the context of the current subroutine call.\n\nWithout EXPR, returns \"$line $filename\".  With EXPR, returns\n\"$line $subroutine $filename\"; this extra information can be used to\nprovide a stack trace.\n\nThe value of EXPR indicates how many call frames to go back before the\ncurrent one; the top frame is frame 0.\n\nExit Status:\nReturns 0 unless the shell is not executing a shell function or EXPR\nis invalid."⟩,
  ⟨"case", "case WORD in [PATTERN [| PATTERN]...) COMMANDS ;;]... esac",
    "Execute commands based on pattern matching.\n\nSelectively execute COMMANDS based upon WORD matching PATTERN.  The\n`|' is used to separate multiple patterns.\n\nExit Status:\nReturns the status of the last command executed."⟩,
  ⟨"cd", "cd [-L|[-P [-e]] [-@]] [dir]",
    "Change the shell working directory.\n\nChange the current directory to DIR.  The default DIR is the value of the\nHOME shell variable. If DIR is \"-\", it is converted to $OLDPWD.\n\nThe variable CDPATH defines the search path for the directory containing\nDIR.  Alternative directory names in CDPATH are separated by a colon (:).\nA null directory name is the same as the current directory.  If DIR begins\nwith a slash (/), then CDPATH is not used.\n\nIf the directory is not found, and the shell option `cdable_vars' is set,\nthe word is assumed to be  a variable name.  If that variable has a value,\nits value is used for DIR.\n\nOptions:\n  -L\tforce symbolic links to be followed: resolve symbolic\n\t\tlinks in DIR after processing instances of `..'\n  -P\tuse the physical directory structure without following\n\t\tsymbolic links: resolve symbolic links in DIR before\n\t\tprocessing instances of `..'\n  -e\tif the -P option is supplied, and the current working\n\t\tdirectory cannot be determined successfully, exit with\n\t\ta non-zero status\n  -@\ton systems that support it, present a file with extended\n\t\tattributes as a directory containing the file attributes\n\nThe default is to follow symbolic links, as if `-L' were specified.\n`..' is processed by removing the immediately previous pathname component\nback to a slash or the beginning of DIR.\n\nExit Status:\nReturns 0 if the directory is changed, and if $PWD is set successfully when\n-P is used; non-zero otherwise."⟩,
  ⟨"command", "command [-pVv] command [arg ...]",
    "Execute a simple command or display information about commands.\n\nRuns COMMAND with ARGS suppressing  shell function lookup, or display\ninformation about the specified COMMANDs.  Can be used to invoke commands\non disk when a function with the same name exists.\n\nOptions:\n  -p    use a default value for PATH that is guaranteed to find all of\n        the standard utilities\n  -v    print a description of COMMAND similar to the `type' builtin\n  -V    print a more verbose description of each COMMAND\n\nExit Status:\nReturns exit status of COMMAND, or failure if COMMAND is not found."⟩,
  ⟨"compgen", "compgen [-abcdefgjksuv] [-o option] [-A action] [-G globpat] [-W wordlist] [-F function] [-C command] [-X filterpat] [-P prefix] [-S suffix] [word]",
    "Display possible completions depending on the options.\n\nIntended to be used from within a shell function generating possible\ncompletions.  If the optional WORD argument is supplied, matches against\nWORD are generated.\n\nExit Status:\nReturns success unless an invalid option is supplied or an error occurs."⟩,
  ⟨"complete", "complete [-abcdefgjksuv] [-pr] [-DEI] [-o option] [-A action] [-G globpat] [-W wordlist] [-F function] [-C command] [-X filterpat] [-P prefix] [-S suffix] [name ...]",
    "Specify how arguments are to be completed by Readline.\n\nFor each NAME, specify how arguments are to be completed.  If no options\nare supplied, existing completion specifications are printed in a way that\nallows them to be reused as input.\n\nOptions:\n  -p\tprint existing completion specifications in a reusable format\n  -r\tremove a completion specification for each NAME, or, if no\n\t\tNAMEs are supplied, all completion specifications\n  -D\tapply the completions and actions as the default for commands\n\t\twithout any specific completion defined\n  -E\tapply the completions and actions to \"empty\" commands --\n\t\tcompletion attempted on a blank line\n  -I\tapply the completions and actions to the initial (usually the\n\t\tcommand) word\n\nWhen completion is attempted, the actions are applied in the order the\nuppercase-letter options are listed above. If multiple options are supplied,\nthe -D option takes precedence over -E, and both take precedence over -I.\n\nExit Status:\nReturns success unless an invalid option is supplied or an error occurs."⟩,
  ⟨"compopt", "compopt [-o|+o option] [-DEI] [name ...]",
    "Modify or display completion options.\n\nModify the completion options for each NAME, or, if no NAMEs are supplied,\nthe completion currently being executed.  If no OPTIONs are given, print\nthe completion options for each NAME or the current completion specification.\n\nOptions:\n\t-o option\tSet completion option OPTION for each NAME\n\t-D\t\tChange options for the \"default\" command completion\n\t-E\t\tChange options for the \"empty\" command completion\n\t-I\t\tChange options for completion on the initial word\n\nUsing `+o' instead of `-o' turns off the specified option.\n\nArguments:\n\nEach NAME refers to a command for which a completion specification must\nhave previously been defined using the `complete' builtin.  If no NAMEs\nare supplied, compopt must be called by a function currently generating\ncompletions, and the options for that currently-executing completion\ngenerator are modified.\n\nExit Status:\nReturns success unless an invalid option is supplied or NAME does not\nhave a completion specification defined."⟩,
  ⟨"continue", "continue [n]",
    "Resume for, while, or until loops.\n\nResumes the next iteration of the enclosing FOR, WHILE or UNTIL loop.\nIf N is specified, resumes the Nth enclosing loop.\n\nExit Status:\nThe exit status is 0 unless N is not greater than or equal to 1."⟩,
  ⟨"coproc", "coproc [NAME] command [redirections]",
    "Create a coprocess named NAME.\n\nExecute COMMAND asynchronously, with the standard output and standard\ninput of the command connected via a pipe to file descriptors assigned\nto indices 0 and 1 of an array variable NAME in the executing shell.\nThe default NAME is \"COPROC\".\n\nExit Status:\nThe coproc command returns an exit status of 0."⟩,
  ⟨"declare", "declare [-aAfFgiIlnrtux] [name[=value] ...] or declare -p [-aAfFilnrtux] [name ...]",
    "Set variable values and attributes.\n\nDeclare variables and give them attributes.  If no NAMEs are given,\ndisplay the attributes and values of all variables.\n\nOptions:\n  -f\trestrict action or display to function names and definitions\n  -F\trestrict display to function names only (plus line number and\n\t\tsource file when debugging)\n  -g\tcreate global variables when used in a shell function; otherwise\n\t\tignored\n  -I\tif creating a local variable, inherit the attributes and value\n\t\tof a variable with the same name at a previous scope\n  -p\tdisplay the attributes and value of each NAME\n\nOptions which set attributes:\n  -a\tto make NAMEs indexed arrays (if supported)\n  -A\tto make NAMEs associative arrays (if supported)\n  -i\tto make NAMEs have the `integer' attribute\n  -l\tto convert the value of each NAME to lower case on assignment\n  -n\tmake NAME a reference to the variable named by its value\n  -r\tto make NAMEs readonly\n  -t\tto make NAMEs have the `trace' attribute\n  -u\tto convert the value of each NAME to upper case on assignment\n  -x\tto make NAMEs export\n\nUsing `+' instead of `-' turns off the given attribute.\n\nVariables with the integer attribute have arithmetic evaluation (see\nthe `let' command) performed when the variable is assigned a value.\n\nWhen used in a function, `declare' makes NAMEs local, as with the `local'\ncommand.  The `-g' option suppresses this behavior.\n\nExit Status:\nReturns success unless an invalid option is supplied or a variable\nassignment error occurs."⟩,
  ⟨"dirs", "dirs [-clpv] [+N] [-N]",
    "Display directory stack.\n\nDisplay the list of currently remembered directories.  Directories\nfind their way onto the list with the `pushd' command; you can get\nback up through the list with the `popd' command.\n\nOptions:\n  -c\tclear the directory stack by deleting all of the elements\n  -l\tdo not print tilde-prefixed versions of directories relative\n\t\tto your home directory\n  -p\tprint the directory stack with one entry per line\n  -v\tprint the directory stack with one entry per line prefixed\n\t\twith its position in the stack\n\nArguments:\n  +N\tDisplays the Nth entry counting from the left of the list\n\t\tshown by dirs when invoked without options, starting with\n\t\tzero.\n\n  -N\tDisplays the Nth entry counting from the right of the list\n\t\tshown by dirs when invoked without options, starting with\n\t\tzero.\n\nExit Status:\nReturns success unless an invalid option is supplied or an error occurs."⟩,
  ⟨"disown", "disown [-h] [-ar] [jobspec ... | pid ...]",
    "Remove jobs from current shell.\n\nRemoves each JOBSPEC argument from the table of active jobs.  Without\nany JOBSPECs, the shell uses its notion of the current job.\n\nOptions:\n  -a\tremove all jobs if JOBSPEC is not supplied\n  -h\tmark each JOBSPEC so that SIGHUP is not sent to the job if the\n\t\tshell receives a SIGHUP\n  -r\tremove only running jobs\n\nExit Status:\nReturns success unless an invalid option or JOBSPEC is given."⟩,
  ⟨"echo", "echo [-neE] [arg ...]",
    "Write arguments to the standard output.\n\nDisplay the ARGs, separated by a single space character and followed by a\nnewline, on the standard output.\n\nOptions:\n  -n\tdo not append a newline\n  -e\tenable interpretation of the following backslash escapes\n  -E\texplicitly suppress interpretation of backslash escapes\n\n`echo' interprets the following backslash-escaped characters:\n  \\a\talert (bell)\n  \\b\tbackspace\n  \\c\tsuppress further output\n  \\e\tescape character\n  \\E\tescape character\n  \\f\tform feed\n  \\n\tnew line\n  \\r\tcarriage return\n  \\t\thorizontal tab\n  \\v\tvertical tab\n  \\\\\tbackslash\n  \\0nnn\tthe character whose ASCII code is NNN (octal).  NNN can be\n\t\t0 to 3 octal digits\n  \\xHH\tthe eight-bit character whose value is HH (hexadecimal).  HH\n\t\tcan be one or two hex digits\n  \\uHHHH\tthe Unicode character whose value is the hexadecimal value HHHH.\n\t\tHHHH can be one to four hex digits.\n  \\UHHHHHHHH the Unicode character whose value is the hexadecimal value\n\t\tHHHHHHHH. HHHHHHHH can be one to eight hex digits.\n\nExit Status:\nReturns success unless a write error occurs."⟩,
  ⟨"enable", "enable [-a] [-dnps] [-f filename] [name ...]",
    "Enable and disable shell builtins.\n\nEnables and disables builtin shell commands.  Disabling allows you to\nexecute a disk command which has the same name as a shell builtin\nwithout using a full pathname.\n\nOptions:\n  -a\tprint a list of builtins showing whether or not each is enabled\n  -n\tdisable each NAME or display a list of disabled builtins\n  -p\tprint the list of builtins in a reusable format\n  -s\tprint only the names of Posix `special' builtins\n\nOptions controlling dynamic loading:\n  -f\tLoad builtin NAME from shared object FILENAME\n  -d\tRemove a builtin loaded with -f\n\nWithout options, each NAME is enabled.\n\nTo use the `test' found in $PATH instead of the shell builtin\nversion, type `enable -n test'.\n\nExit Status:\nReturns success unless NAME is not a shell builtin or an error occurs."⟩,
  ⟨"eval", "eval [arg ...]",
    "Execute arguments as a shell command.\n\nCombine ARGs into a single string, use the result as input to the shell,\nand execute the resulting commands.\n\nExit Status:\nReturns exit status of command or success if command is null."⟩,
  ⟨"exec", "exec [-cl] [-a name] [command [argument ...]] [redirection ...]",
    "Replace the shell with the given command.\n\nExecute COMMAND, replacing this shell with the specified program.\nARGUMENTS become the arguments to COMMAND.  If COMMAND is not specified,\nany redirections take effect in the current shell.\n\nOptions:\n  -a name\tpass NAME as the zeroth argument to COMMAND\n  -c\texecute COMMAND with an empty environment\n  -l\tplace a dash in the zeroth argument to COMMAND\n\nIf the command cannot be executed, a non-interactive shell exits, unless\nthe shell option `execfail' is set.\n\nExit Status:\nReturns success unless COMMAND is not found or a redirection error occurs."⟩,
  ⟨"exit", "exit [n]",
    "Exit the shell.\n\nExits the shell with a status of N.  If N is omitted, the exit status\nis that of the last command executed."⟩,
  ⟨"export", "export [-fn] [name[=value] ...] or export -p",
    "Set export attribute for shell variables.\n\nMarks each NAME for automatic export to the environment of subsequently\nexecuted commands.  If VALUE is supplied, assign VALUE before exporting.\n\nOptions:\n  -f\trefer to shell functions\n  -n\tremove the export property from each NAME\n  -p\tdisplay a list of all exported variables and functions\n\nAn argument of `--' disables further option processing.\n\nExit Status:\nReturns success unless an invalid option is given or NAME is invalid."⟩,
  ⟨"false", "false",
    "Return an unsuccessful result.\n\nExit Status:\nAlways fails."⟩,
  ⟨"fc", "fc [-e ename] [-lnr] [first] [last] or fc -s [pat=rep] [command]",
    "Display or execute commands from the history list.\n\nfc is used to list or edit and re-execute commands from the history list.\nFIRST and LAST can be numbers specifying the range, or FIRST can be a\nstring, which means the most recent command beginning with that\nstring.\n\nOptions:\n  -e ENAME\tselect which editor to use.  Default is FCEDIT, then EDITOR,\n\t\tthen vi\n  -l \tlist lines instead of editing\n  -n\tomit line numbers when listing\n  -r\treverse the order of the lines (newest listed first)\n\nWith the `fc -s [pat=rep ...] [command]' format, COMMAND is\nre-executed after the substitution OLD=NEW is performed.\n\nA useful alias to use with this is r='fc -s', so that typing `r cc'\nruns the last command beginning with `cc' and typing `r' re-executes\nthe last command.\n\nExit Status:\nReturns success or status of executed command; non-zero if an error occurs."⟩,
  ⟨"fg", "fg [job_spec]",
    "Move job to the foreground.\n\nPlace the job identified by JOB_SPEC in the foreground, making it the\ncurrent job.  If JOB_SPEC is not present, the shell's notion of the\ncurrent job is used.\n\nExit Status:\nStatus of command placed in foreground, or failure if an error occurs."⟩,
  ⟨"for", "for NAME [in WORDS ... ] ; do COMMANDS; done",
    "Execute commands for each member in a list.\n\nThe `for' loop executes a sequence of commands for each member in a\nlist of items.  If `in WORDS ...;' is not present, then `in \"$@\"' is\nassumed.  For each element in WORDS, NAME is set to that element, and\nthe COMMANDS are executed.\n\nExit Status:\nReturns the status of the last command executed."⟩,
  ⟨"for ((", "for (( exp1; exp2; exp3 )); do COMMANDS; done",
    "Arithmetic for loop.\n\nEquivalent to\n\t(( EXP1 ))\n\twhile (( EXP2 )); do\n\t\tCOMMANDS\n\t\t(( EXP3 ))\n\tdone\nEXP1, EXP2, and EXP3 are arithmetic expressions.  If any expression is\nomitted, it behaves as if it evaluates to 1.\n\nExit Status:\nReturns the status of the last command executed."⟩,
  ⟨"function", "function name \x7b COMMANDS ; \x7d or name () \x7b COMMANDS ; \x7d",
    "Define shell function.\n\nCreate a shell function named NAME.  When invoked as a simple command,\nNAME runs COMMANDs in the calling shell's context.  When NAME is invoked,\nthe arguments are passed to the function as $1...$n, and the function's\nname is in $FUNCNAME.\n\nExit Status:\nReturns success unless NAME is readonly."⟩,
  ⟨"getopts", "getopts optstring name [arg ...]",
    "Parse option arguments.\n\nGetopts is used by shell procedures to parse positional parameters\nas options.\n\nOPTSTRING contains the option letters to be recognized; if a letter\nis followed by a colon, the option is expected to have an argument,\nwhich should be separated from it by white space.\n\nEach time it is invoked, getopts will place the next option in the\nshell variable $name, initializing name if it does not exist, and\nthe index of the next argument to be processed into the shell\nvariable OPTIND.  OPTIND is initialized to 1 each time the shell or\na shell script is invoked.  When an option requires an argument,\ngetopts places that argument into the shell variable OPTARG.\n\ngetopts reports errors in one of two ways.  If the first character\nof OPTSTRING is a colon, getopts uses silent error reporting.  In\nthis mode, no error messages are printed.  If an invalid option is\nseen, getopts places the option character found into OPTARG.  If a\nrequired argument is not found, getopts places a ':' into NAME and\nsets OPTARG to the option character found.  If getopts is not in\nsilent mode, and an invalid option is seen, getopts places '?' into\nNAME and unsets OPTARG.  If a required argument is not found, a '?'\nis placed in NAME, OPTARG is unset, and a diagnostic message is\nprinted.\n\nIf the shell variable OPTERR has the value 0, getopts disables the\nprinting of error messages, even if the first character of\nOPTSTRING is not a colon.  OPTERR has the value 1 by default.\n\nGetopts normally parses the positional parameters, but if arguments\nare supplied as ARG values, they are parsed instead.\n\nExit Status:\nReturns success if an option is found; fails if the end of options is\nencountered or an error occurs."⟩,
  ⟨"hash", "hash [-lr] [-p pathname] [-dt] [name ...]",
    "Remember or display program locations.\n\nDetermine and remember the full pathname of each command NAME.  If\nno arguments are given, information about remembered commands is displayed.\n\nOptions:\n  -d\tforget the remembered location of each NAME\n  -l\tdisplay in a format that may be reused as input\n  -p pathname\tuse PATHNAME as the full pathname of NAME\n  -r\tforget all remembered locations\n  -t\tprint the remembered location of each NAME, preceding\n\t\teach location with the corresponding NAME if multiple\n\t\tNAMEs are given\nArguments:\n  NAME\tEach NAME is searched for in $PATH and added to the list\n\t\tof remembered commands.\n\nExit Status:\nReturns success unless NAME is not found or an invalid option is given."⟩,
  ⟨"help", "help [-dms] [pattern ...]",
    "Display information about builtin commands.\n\nDisplays brief summaries of builtin commands.  If PATTERN is\nspecified, gives detailed help on all commands matching PATTERN,\notherwise the list of help topics is printed.\n\nOptions:\n  -d\toutput short description for each topic\n  -m\tdisplay usage in pseudo-manpage format\n  -s\toutput only a short usage synopsis for each topic matching\n\t\tPATTERN\n\nArguments:\n  PATTERN\tPattern specifying a help topic\n\nExit Status:\nReturns success unless PATTERN is not found or an invalid option is given."⟩,
  ⟨"history", "history [-c] [-d offset] [n] or history -anrw [filename] or history -ps arg [arg...]",
    "Display or manipulate the history list.\n\nDisplay the history list with line numbers, prefixing each modified\nentry with a `*'.  An argument of N lists only the last N entries.\n\nOptions:\n  -c\tclear the history list by deleting all of the entries\n  -d offset\tdelete the history entry at position OFFSET. Negative\n\t\toffsets count back from the end of the history list\n\n  -a\tappend history lines from this session to the history file\n  -n\tread all history lines not already read from the history file\n\t\tand append them to the history list\n  -r\tread the history file and append the contents to the history\n\t\tlist\n  -w\twrite the current history to the history file\n\n  -p\tperform history expansion on each ARG and display the result\n\t\twithout storing it in the history list\n  -s\tappend the ARGs to the history list as a single entry\n\nIf FILENAME is given, it is used as the history file.  Otherwise,\nif HISTFILE has a value, that is used, else ~/.bash_history.\n\nIf the HISTTIMEFORMAT variable is set and not null, its value is used\nas a format string for strftime(3) to print the time stamp associated\nwith each displayed history entry.  No time stamps are printed otherwise.\n\nExit Status:\nReturns success unless an invalid option is given or an error occurs."⟩,
  ⟨"if", "if COMMANDS; then COMMANDS; [ elif COMMANDS; then COMMANDS; ]... [ else COMMANDS; ] fi",
    "Execute commands based on conditional.\n\nThe `if COMMANDS' list is executed.  If its exit status is zero, then the\n`then COMMANDS' list is executed.  Otherwise, each `elif COMMANDS' list is\nexecuted in turn, and if its exit status is zero, the corresponding\n`then COMMANDS' list is executed and the if command completes.  Otherwise,\nthe `else COMMANDS' list is executed, if present.  The exit status of the\nentire construct is the exit status of the last command executed, or zero\nif no condition tested true.\n\nExit Status:\nReturns the status of the last command executed."⟩,
  ⟨"jobs", "jobs [-lnprs] [jobspec ...] or jobs -x command [args]",
    "Display status of jobs.\n\nLists the active jobs.  JOBSPEC restricts output to that job.\nWithout options, the status of all active jobs is displayed.\n\nOptions:\n  -l\tlists process IDs in addition to the normal information\n  -n\tlists only processes that have changed status since the last\n\t\tnotification\n  -p\tlists process IDs only\n  -r\trestrict output to running jobs\n  -s\trestrict output to stopped jobs\n\nIf -x is supplied, COMMAND is run after all job specifications that\nappear in ARGS have been replaced with the process ID of that job's\nprocess group leader.\n\nExit Status:\nReturns success unless an invalid option is given or an error occurs.\nIf -x is used, returns the exit status of COMMAND."⟩,
  ⟨"kill", "kill [-s sigspec | -n signum | -sigspec] pid | jobspec ... or kill -l [sigspec]",
    "Send a signal to a job.\n\nSend the processes identified by PID or JOBSPEC the signal named by\nSIGSPEC or SIGNUM.  If neither SIGSPEC nor SIGNUM is present, then\nSIGTERM is assumed.\n\nOptions:\n  -s sig\tSIG is a signal name\n  -n sig\tSIG is a signal number\n  -l\tlist the signal names; if arguments follow `-l' they are\n\t\tassumed to be signal numbers for which names should be listed\n  -L\tsynonym for -l\n\nKill is a shell builtin for two reasons: it allows job IDs to be used\ninstead of process IDs, and allows processes to be killed if the limit\non processes that you can create is reached.\n\nExit Status:\nReturns success unless an invalid option is given or an error occurs."⟩,
  ⟨"let", "let arg [arg ...]",
    "Evaluate arithmetic expressions.\n\nEvaluate each ARG as an arithmetic expression.  Evaluation is done in\nfixed-width integers with no check for overflow, though division by 0\nis trapped and flagged as an error.  The following list of operators is\ngrouped into levels of equal-precedence operators.  The levels are listed\nin order of decreasing precedence.\n\n\tid++, id--\tvariable post-increment, post-decrement\n\t++id, --id\tvariable pre-increment, pre-decrement\n\t-, +\t\tunary minus, plus\n\t!, ~\t\tlogical and bitwise negation\n\t**\t\texponentiation\n\t*, /, %\t\tmultiplication, division, remainder\n\t+, -\t\taddition, subtraction\n\t<<, >>\t\tleft and right bitwise shifts\n\t<=, >=, <, >\tcomparison\n\t==, !=\t\tequality, inequality\n\t&\t\tbitwise AND\n\t^\t\tbitwise XOR\n\t|\t\tbitwise OR\n\t&&\t\tlogical AND\n\t||\t\tlogical OR\n\texpr ? expr : expr\n\t\t\tconditional operator\n\t=, *=, /=, %=,\n\t+=, -=, <<=, >>=,\n\t&=, ^=, |=\tassignment\n\nShell variables are allowed as operands.  The name of the variable\nis replaced by its value (coerced to a fixed-width integer) within\nan expression.  The variable need not have its integer attribute\nturned on to be used in an expression.\n\nOperators are evaluated in order of precedence.  Sub-expressions in\nparentheses are evaluated first and may override the precedence\nrules above.\n\nExit Status:\nIf the last ARG evaluates to 0, let returns 1; let returns 0 otherwise."⟩,
  ⟨"local", "local [option] name[=value] ...",
    "Define local variables.\n\nCreate a local variable called NAME, and give it VALUE.  OPTION can\nbe any option accepted by `declare'.\n\nLocal variables can only be used within a function; they are visible\nonly to the function where they are defined and its children.\n\nExit Status:\nReturns success unless an invalid option is supplied, a variable\nassignment error occurs, or the shell is not executing a function."⟩,
  ⟨"logout", "logout [n]",
    "Exit a login shell.\n\nExits a login shell with exit status N.  Returns an error if not executed\nin a login shell."⟩,
  ⟨"mapfile", "mapfile [-d delim] [-n count] [-O origin] [-s count] [-t] [-u fd] [-C callback] [-c quantum] [array]",
    "Read lines from the standard input into an indexed array variable.\n\nRead lines from the standard input into the indexed array variable ARRAY, or\nfrom file descriptor FD if the -u option is supplied.  The variable MAPFILE\nis the default ARRAY.\n\nOptions:\n  -d delim\tUse DELIM to terminate lines, instead of newline\n  -n count\tCopy at most COUNT lines.  If COUNT is 0, all lines are copied\n  -O origin\tBegin assigning to ARRAY at index ORIGIN.  The default index is 0\n  -s count\tDiscard the first COUNT lines read\n  -t\tRemove a trailing DELIM from each line read (default newline)\n  -u fd\tRead lines from file descriptor FD instead of the standard input\n  -C callback\tEvaluate CALLBACK each time QUANTUM lines are read\n  -c quantum\tSpecify the number of lines read between each call to\n\t\t\tCALLBACK\n\nArguments:\n  ARRAY\tArray variable name to use for file data\n\nIf -C is supplied without -c, the default quantum is 5000.  When\nCALLBACK is evaluated, it is supplied the index of the next array\nelement to be assigned and the line to be assigned to that element\nas additional arguments.\n\nIf not supplied with an explicit origin, mapfile will clear ARRAY before\nassigning to it.\n\nExit Status:\nReturns success unless an invalid option is given or ARRAY is readonly or\nnot an indexed array."⟩,
  ⟨"popd", "popd [-n] [+N | -N]",
    "Remove directories from stack.\n\nRemoves entries from the directory stack.  With no arguments, removes\nthe top directory from the stack, and changes to the new top directory.\n\nOptions:\n  -n\tSuppresses the normal change of directory when removing\n\t\tdirectories from the stack, so only the stack is manipulated.\n\nArguments:\n  +N\tRemoves the Nth entry counting from the left of the list\n\t\tshown by `dirs', starting with zero.  For example: `popd +0'\n\t\tremoves the first directory, `popd +1' the second.\n\n  -N\tRemoves the Nth entry counting from the right of the list\n\t\tshown by `dirs', starting with zero.  For example: `popd -0'\n\t\tremoves the last directory, `popd -1' the next to last.\n\nThe `dirs' builtin displays the directory stack.\n\nExit Status:\nReturns success unless an invalid argument is supplied or the directory\nchange fails."⟩,
  ⟨"printf", "printf [-v var] format [arguments]",
    "Formats and prints ARGUMENTS under control of the FORMAT.\n\nOptions:\n  -v var\tassign the output to shell variable VAR rather than\n\t\tdisplay it on the standard output\n\nFORMAT is a character string which contains three types of objects: plain\ncharacters, which are simply copied to standard output; character escape\nsequences, which are converted and copied to the standard output; and\nformat specifications, each of which causes printing of the next successive\nargument.\n\nIn addition to the standard format specifications described in printf(1),\nprintf interprets:\n\n  %b\texpand backslash escape sequences in the corresponding argument\n  %q\tquote the argument in a way that can be reused as shell input\n  %Q\tlike %q, but apply any precision to the unquoted argument before\n\t\tquoting\n  %(fmt)T\toutput the date-time string resulting from using FMT as a format\n\t        string for strftime(3)\n\nThe format is re-used as necessary to consume all of the arguments.  If\nthere are fewer arguments than the format requires,  extra format\nspecifications behave as if a zero value or null string, as appropriate,\nhad been supplied.\n\nExit Status:\nReturns success unless an invalid option is given or a write or assignment\nerror occurs."⟩,
  ⟨"pushd", "pushd [-n] [+N | -N | dir]",
    "Add directories to stack.\n\nAdds a directory to the top of the directory stack, or rotates\nthe stack, making the new top of the stack the current working\ndirectory.  With no arguments, exchanges the top two directories.\n\nOptions:\n  -n\tSuppresses the normal change of directory when adding\n\t\tdirectories to the stack, so only the stack is manipulated.\n\nArguments:\n  +N\tRotates the stack so that the Nth directory (counting\n\t\tfrom the left of the list shown by `dirs', starting with\n\t\tzero) is at the top.\n\n  -N\tRotates the stack so that the Nth directory (counting\n\t\tfrom the right of the list shown by `dirs', starting with\n\t\tzero) is at the top.\n\n  dir\tAdds DIR to the directory stack at the top, making it the\n\t\tnew current working directory.\n\nThe `dirs' builtin displays the directory stack.\n\nExit Status:\nReturns success unless an invalid argument is supplied or the directory\nchange fails."⟩,
  ⟨"pwd", "pwd [-LP]",
    "Print the name of the current working directory.\n\nOptions:\n  -L\tprint the value of $PWD if it names the current working\n\t\tdirectory\n  -P\tprint the physical directory, without any symbolic links\n\nBy default, `pwd' behaves as if `-L' were specified.\n\nExit Status:\nReturns 0 unless an invalid option is given or the current directory\ncannot be read."⟩,
  ⟨"read", "read [-ers] [-a array] [-d delim] [-i text] [-n nchars] [-N nchars] [-p prompt] [-t timeout] [-u fd] [name ...]",
    "Read a line from the standard input and split it into fields.\n\nReads a single line from the standard input, or from file descriptor FD\nif the -u option is supplied.  The line is split into fields as with word\nsplitting, and the first word is assigned to the first NAME, the second\nword to the second NAME, and so on, with any leftover words assigned to\nthe last NAME.  Only the characters found in $IFS are recognized as word\ndelimiters. By default, the backslash character escapes delimiter characters\nand newline.\n\nIf no NAMEs are supplied, the line read is stored in the REPLY variable.\n\nOptions:\n  -a array\tassign the words read to sequential indices of the array\n\t\tvariable ARRAY, starting at zero\n  -d delim\tcontinue until the first character of DELIM is read, rather\n\t\tthan newline\n  -e\tuse Readline to obtain the line\n  -i text\tuse TEXT as the initial text for Readline\n  -n nchars\treturn after reading NCHARS characters rather than waiting\n\t\tfor a newline, but honor a delimiter if fewer than\n\t\tNCHARS characters are read before the delimiter\n  -N nchars\treturn only after reading exactly NCHARS characters, unless\n\t\tEOF is encountered or read times out, ignoring any\n\t\tdelimiter\n  -p prompt\toutput the string PROMPT without a trailing newline before\n\t\tattempting to read\n  -r\tdo not allow backslashes to escape any characters\n  -s\tdo not echo input coming from a terminal\n  -t timeout\ttime out and return failure if a complete line of\n\t\tinput is not read within TIMEOUT seconds.  The value of the\n\t\tTMOUT variable is the default timeout.  TIMEOUT may be a\n\t\tfractional number.  If TIMEOUT is 0, read returns\n\t\timmediately, without trying to read any data, returning\n\t\tsuccess only if input is available on the specified\n\t\tfile descriptor.  The exit status is greater than 128\n\t\tif the timeout is exceeded\n  -u fd\tread from file descriptor FD instead of the standard input\n\nExit Status:\nThe return code is zero, unless end-of-file is encountered, read times out\n(in which case it's greater than 128), a variable assignment error occurs,\nor an invalid file descriptor is supplied as the argument to -u."⟩,
  ⟨"readarray", "readarray [-d delim] [-n count] [-O origin] [-s count] [-t] [-u fd] [-C callback] [-c quantum] [array]",
    "Read lines from a file into an array variable.\n\nA synonym for `mapfile'."⟩,
  ⟨"readonly", "readonly [-aAf] [name[=value] ...] or readonly -p",
    "Mark shell variables as unchangeable.\n\nMark each NAME as read-only; the values of these NAMEs may not be\nchanged by subsequent assignment.  If VALUE is supplied, assign VALUE\nbefore marking as read-only.\n\nOptions:\n  -a\trefer to indexed array variables\n  -A\trefer to associative array variables\n  -f\trefer to shell functions\n  -p\tdisplay a list of all readonly variables or functions,\n\t\tdepending on whether or not the -f option is given\n\nAn argument of `--' disables further option processing.\n\nExit Status:\nReturns success unless an invalid option is given or NAME is invalid."⟩,
  ⟨"return", "return [n]",
    "Return from a shell function.\n\nCauses a function or sourced script to exit with the return value\nspecified by N.  If N is omitted, the return status is that of the\nlast command executed within the function or script.\n\nExit Status:\nReturns N, or failure if the shell is not executing a function or script."⟩,
  ⟨"select", "select NAME [in WORDS ... ;] do COMMANDS; done",
    "Select words from a list and execute commands.\n\nThe WORDS are expanded, generating a list of words.  The\nset of expanded words is printed on the standard error, each\npreceded by a number.  If `in WORDS' is not present, `in \"$@\"'\nis assumed.  The PS3 prompt is then displayed and a line read\nfrom the standard input.  If the line consists of the number\ncorresponding to one of the displayed words, then NAME is set\nto that word.  If the line is empty, WORDS and the prompt are\nredisplayed.  If EOF is read, the command completes.  Any other\nvalue read causes NAME to be set to null.  The line read is saved\nin the variable REPLY.  COMMANDS are executed after each selection\nuntil a break command is executed.\n\nExit Status:\nReturns the status of the last command executed."⟩,
  ⟨"set", "set [-abefhkmnptuvxBCEHPT] [-o option-name] [--] [-] [arg ...]",
    "Set or unset values of shell options and positional parameters.\n\nChange the value of shell attributes and positional parameters, or\ndisplay the names and values of shell variables.\n\nOptions:\n  -a  Mark variables which are modified or created for export.\n  -b  Notify of job termination immediately.\n  -e  Exit immediately if a command exits with a non-zero status.\n  -f  Disable file name generation (globbing).\n  -h  Remember the location of commands as they are looked up.\n  -k  All assignment arguments are placed in the environment for a\n      command, not just those that precede the command name.\n  -m  Job control is enabled.\n  -n  Read commands but do not execute them.\n  -o option-name\n      Set the variable corresponding to option-name:\n          allexport    same as -a\n          braceexpand  same as -B\n          emacs        use an emacs-style line editing interface\n          errexit      same as -e\n          errtrace     same as -E\n          functrace    same as -T\n          hashall      same as -h\n          histexpand   same as -H\n          history      enable command history\n          ignoreeof    the shell will not exit upon reading EOF\n          interactive-comments\n                       allow comments to appear in interactive commands\n          keyword      same as -k\n          monitor      same as -m\n          noclobber    same as -C\n          noexec       same as -n\n          noglob       same as -f\n          nolog        currently accepted but ignored\n          notify       same as -b\n          nounset      same as -u\n          onecmd       same as -t\n          physical     same as -P\n          pipefail     the return value of a pipeline is the status of\n                       the last command to exit with a non-zero status,\n                       or zero if no command exited with a non-zero status\n          posix        change the behavior of bash where the default\n                       operation differs from the Posix standard to\n                       match the standard\n          privileged   same as -p\n          verbose      same as -v\n          vi           use a vi-style line editing interface\n          xtrace       same as -x\n  -p  Turned on whenever the real and effective user ids do not match.\n      Disables processing of the $ENV file and importing of shell\n      functions.  Turning this option off causes the effective uid and\n      gid to be set to the real uid and gid.\n  -t  Exit after reading and executing one command.\n  -u  Treat unset variables as an error when substituting.\n  -v  Print shell input lines as they are read.\n  -x  Print commands and their arguments as they are executed.\n  -B  the shell will perform brace expansion\n  -C  If set, disallow existing regular files to be overwritten\n      by redirection of output.\n  -E  If set, the ERR trap is inherited by shell functions.\n  -H  Enable ! style history substitution.  This flag is on\n      by default when the shell is interactive.\n  -P  If set, do not resolve symbolic links when executing commands\n      such as cd which change the current directory.\n  -T  If set, the DEBUG and RETURN traps are inherited by shell functions.\n  --  Assign any remaining arguments to the positional parameters.\n      If there are no remaining arguments, the positional parameters\n      are unset.\n  -   Assign any remaining arguments to the positional parameters.\n      The -x and -v options are turned off.\n\nUsing + rather than - causes these flags to be turned off.  The\nflags can also be used upon invocation of the shell.  The current\nset of flags may be found in $-.  The remaining n ARGs are positional\nparameters and are assigned, in order, to $1, $2, .. $n.  If no\nARGs are given, all shell variables are printed.\n\nExit Status:\nReturns success unless an invalid option is given."⟩,
  ⟨"shift", "shift [n]",
    "Shift positional parameters.\n\nRename the positional parameters $N+1,$N+2 ... to $1,$2 ...  If N is\nnot given, it is assumed to be 1.\n\nExit Status:\nReturns success unless N is negative or greater than $#."⟩,
  ⟨"shopt", "shopt [-pqsu] [-o] [optname ...]",
    "Set and unset shell options.\n\nChange the setting of each shell option OPTNAME.  Without any option\narguments, list each supplied OPTNAME, or all shell options if no\nOPTNAMEs are given, with an indication of whether or not each is set.\n\nOptions:\n  -o\trestrict OPTNAMEs to those defined for use with `set -o'\n  -p\tprint each shell option with an indication of its status\n  -q\tsuppress output\n  -s\tenable (set) each OPTNAME\n  -u\tdisable (unset) each OPTNAME\n\nExit Status:\nReturns success if OPTNAME is enabled; fails if an invalid option is\ngiven or OPTNAME is disabled."⟩,
  ⟨"source", "source filename [arguments]",
    "Execute commands from a file in the current shell.\n\nRead and execute commands from FILENAME in the current shell.  The\nentries in $PATH are used to find the directory containing FILENAME.\nIf any ARGUMENTS are supplied, they become the positional parameters\nwhen FILENAME is executed.\n\nExit Status:\nReturns the status of the last command executed in FILENAME; fails if\nFILENAME cannot be read."⟩,
  ⟨"suspend", "suspend [-f]",
    "Suspend shell execution.\n\nSuspend the execution of this shell until it receives a SIGCONT signal.\nUnless forced, login shells and shells without job control cannot be\nsuspended.\n\nOptions:\n  -f\tforce the suspend, even if the shell is a login shell or job\n\t\tcontrol is not enabled.\n\nExit Status:\nReturns success unless job control is not enabled or an error occurs."⟩,
  ⟨"test", "test [expr]",
    "Evaluate conditional expression.\n\nExits with a status of 0 (true) or 1 (false) depending on\nthe evaluation of EXPR.  Expressions may be unary or binary.  Unary\nexpressions are often used to examine the status of a file.  There\nare string operators and numeric comparison operators as well.\n\nThe behavior of test depends on the number of arguments.  Read the\nbash manual page for the complete specification.\n\nFile operators:\n\n  -a FILE        True if file exists.\n  -b FILE        True if file is block special.\n  -c FILE        True if file is character special.\n  -d FILE        True if file is a directory.\n  -e FILE        True if file exists.\n  -f FILE        True if file exists and is a regular file.\n  -g FILE        True if file is set-group-id.\n  -h FILE        True if file is a symbolic link.\n  -L FILE        True if file is a symbolic link.\n  -k FILE        True if file has its `sticky' bit set.\n  -p FILE        True if file is a named pipe.\n  -r FILE        True if file is readable by you.\n  -s FILE        True if file exists and is not empty.\n  -S FILE        True if file is a socket.\n  -t FD          True if FD is opened on a terminal.\n  -u FILE        True if the file is set-user-id.\n  -w FILE        True if the file is writable by you.\n  -x FILE        True if the file is executable by you.\n  -O FILE        True if the file is effectively owned by you.\n  -G FILE        True if the file is effectively owned by your group.\n  -N FILE        True if the file has been modified since it was last read.\n\n  FILE1 -nt FILE2  True if file1 is newer than file2 (according to\n                   modification date).\n\n  FILE1 -ot FILE2  True if file1 is older than file2.\n\n  FILE1 -ef FILE2  True if file1 is a hard link to file2.\n\nAll file operators except -h and -L are acting on the target of a symbolic\nlink, not on the symlink itself, if FILE is a symbolic link.\n\nString operators:\n\n  -z STRING      True if string is empty.\n\n  -n STRING\n     STRING      True if string is not empty.\n\n  STRING1 = STRING2\n                 True if the strings are equal.\n  STRING1 != STRING2\n                 True if the strings are not equal.\n  STRING1 < STRING2\n                 True if STRING1 sorts before STRING2 lexicographically.\n  STRING1 > STRING2\n                 True if STRING1 sorts after STRING2 lexicographically.\n\nOther operators:\n\n  -o OPTION      True if the shell option OPTION is enabled.\n  -v VAR         True if the shell variable VAR is set.\n  -R VAR         True if the shell variable VAR is set and is a name\n                 reference.\n  ! EXPR         True if expr is false.\n  EXPR1 -a EXPR2 True if both expr1 AND expr2 are true.\n  EXPR1 -o EXPR2 True if either expr1 OR expr2 is true.\n\n  arg1 OP arg2   Arithmetic tests.  OP is one of -eq, -ne,\n                 -lt, -le, -gt, or -ge.\n\nArithmetic binary operators return true if ARG1 is equal, not-equal,\nless-than, less-than-or-equal, greater-than, or greater-than-or-equal\nthan ARG2.\n\nSee the bash manual page bash(1) for the handling of parameters (i.e.\nmissing parameters).\n\nExit Status:\nReturns success if EXPR evaluates to true; fails if EXPR evaluates to\nfalse or an invalid argument is given."⟩,
  ⟨"time", "time [-p] pipeline",
    "Report time consumed by pipeline's execution.\n\nExecute PIPELINE and print a summary of the real time, user CPU time,\nand system CPU time spent executing PIPELINE when it terminates.\n\nOptions:\n  -p\tprint the timing summary in the portable Posix format\n\nThe value of the TIMEFORMAT variable is used as the output format.\n\nExit Status:\nThe return status is the return status of PIPELINE."⟩,
  ⟨"times", "times",
    "Display process times.\n\nPrints the accumulated user and system times for the shell and all of its\nchild processes.\n\nExit Status:\nAlways succeeds."⟩,
  ⟨"trap", "trap [-lp] [[arg] signal_spec ...]",
    "Trap signals and other events.\n\nDefines and activates handlers to be run when the shell receives signals\nor other conditions.\n\nARG is a command to be read and executed when the shell receives the\nsignal(s) SIGNAL_SPEC.  If ARG is absent (and a single SIGNAL_SPEC\nis supplied) or `-', each specified signal is reset to its original\nvalue.  If ARG is the null string each SIGNAL_SPEC is ignored by the\nshell and by the commands it invokes.\n\nIf a SIGNAL_SPEC is EXIT (0) ARG is executed on exit from the shell.  If\na SIGNAL_SPEC is DEBUG, ARG is executed before every simple command.  If\na SIGNAL_SPEC is RETURN, ARG is executed each time a shell function or a\nscript run by the . or source builtins finishes executing.  A SIGNAL_SPEC\nof ERR means to execute ARG each time a command's failure would cause the\nshell to exit when the -e option is enabled.\n\nIf no arguments are supplied, trap prints the list of commands associated\nwith each signal.\n\nOptions:\n  -l\tprint a list of signal names and their corresponding numbers\n  -p\tdisplay the trap commands associated with each SIGNAL_SPEC\n\nEach SIGNAL_SPEC is either a signal name in <signal.h> or a signal number.\nSignal names are case insensitive and the SIG prefix is optional.  A\nsignal may be sent to the shell with \"kill -signal $$\".\n\nExit Status:\nReturns success unless a SIGSPEC is invalid or an invalid option is given."⟩,
  ⟨"true", "true",
    "Return a successful result.\n\nExit Status:\nAlways succeeds."⟩,
  ⟨"type", "type [-afptP] name [name ...]",
    "Display information about command type.\n\nFor each NAME, indicate how it would be interpreted if used as a\ncommand name.\n\nOptions:\n  -a\tdisplay all locations containing an executable named NAME;\n\t\tincludes aliases, builtins, and functions, if and only if\n\t\tthe `-p' option is not also used\n  -f\tsuppress shell function lookup\n  -P\tforce a PATH search for each NAME, even if it is an alias,\n\t\tbuiltin, or function, and returns the name of the disk file\n\t\tthat would be executed\n  -p\treturns either the name of the disk file that would be executed,\n\t\tor nothing if `type -t NAME' would not return `file'\n  -t\toutput a single word which is one of `alias', `keyword',\n\t\t`function', `builtin', `file' or `', if NAME is an alias,\n\t\tshell reserved word, shell function, shell builtin, disk file,\n\t\tor not found, respectively\n\nArguments:\n  NAME\tCommand name to be interpreted.\n\nExit Status:\nReturns success if all of the NAMEs are found; fails if any are not found."⟩,
  ⟨"typeset", "typeset [-aAfFgiIlnrtux] name[=value] ... or typeset -p [-aAfFilnrtux] [name ...]",
    "Set variable values and attributes.\n\nA synonym for `declare'.  See `help declare'."⟩,
  ⟨"ulimit", "ulimit [-SHabcdefiklmnpqrstuvxPRT] [limit]",
    "Modify shell resource limits.\n\nProvides control over the resources available to the shell and processes\nit creates, on systems that allow such control.\n\nOptions:\n  -S\tuse the `soft' resource limit\n  -H\tuse the `hard' resource limit\n  -a\tall current limits are reported\n  -b\tthe socket buffer size\n  -c\tthe maximum size of core files created\n  -d\tthe maximum size of a process's data segment\n  -e\tthe maximum scheduling priority (`nice')\n  -f\tthe maximum size of files written by the shell and its children\n  -i\tthe maximum number of pending signals\n  -k\tthe maximum number of kqueues allocated for this process\n  -l\tthe maximum size a process may lock into memory\n  -m\tthe maximum resident set size\n  -n\tthe maximum number of open file descriptors\n  -p\tthe pipe buffer size\n  -q\tthe maximum number of bytes in POSIX message queues\n  -r\tthe maximum real-time scheduling priority\n  -s\tthe maximum stack size\n  -t\tthe maximum amount of cpu time in seconds\n  -u\tthe maximum number of user processes\n  -v\tthe size of virtual memory\n  -x\tthe maximum number of file locks\n  -P\tthe maximum number of pseudoterminals\n  -R\tthe maximum time a real-time process can run before blocking\n  -T\tthe maximum number of threads\n\nNot all options are available on all platforms.\n\nIf LIMIT is given, it is the new value of the specified resource; the\nspecial LIMIT values `soft', `hard', and `unlimited' stand for the\ncurrent soft limit, the current hard limit, and no limit, respectively.\nOtherwise, the current value of the specified resource is printed.  If\nno option is given, then -f is assumed.\n\nValues are in 1024-byte increments, except for -t, which is in seconds,\n-p, which is in increments of 512 bytes, and -u, which is an unscaled\nnumber of processes.\n\nExit Status:\nReturns success unless an invalid option is supplied or an error occurs."⟩,
  ⟨"umask", "umask [-p] [-S] [mode]",
    "Display or set file mode mask.\n\nSets the user file-creation mask to MODE.  If MODE is omitted, prints\nthe current value of the mask.\n\nIf MODE begins with a digit, it is interpreted as an octal number;\notherwise it is a symbolic mode string like that accepted by chmod(1).\n\nOptions:\n  -p\tif MODE is omitted, output in a form that may be reused as input\n  -S\tmakes the output symbolic; otherwise an octal number is output\n\nExit Status:\nReturns success unless MODE is invalid or an invalid option is given."⟩,
  ⟨"unalias", "unalias [-a] name [name ...]",
    "Remove each NAME from the list of defined aliases.\n\nOptions:\n  -a\tremove all alias definitions\n\nReturn success unless a NAME is not an existing alias."⟩,
  ⟨"unset", "unset [-f] [-v] [-n] [name ...]",
    "Unset values and attributes of shell variables and functions.\n\nFor each NAME, remove the corresponding variable or function.\n\nOptions:\n  -f\ttreat each NAME as a shell function\n  -v\ttreat each NAME as a shell variable\n  -n\ttreat each NAME as a name reference and unset the variable itself\n\t\trather than the variable it references\n\nWithout options, unset first tries to unset a variable, and if that fails,\ntries to unset a function.\n\nSome variables cannot be unset; also see `readonly'.\n\nExit Status:\nReturns success unless an invalid option is given or a NAME is read-only."⟩,
  ⟨"until", "until COMMANDS; do COMMANDS-2; done",
    "Execute commands as long as a test does not succeed.\n\nExpand and execute COMMANDS-2 as long as the final command in COMMANDS has\nan exit status which is not zero.\n\nExit Status:\nReturns the status of the last command executed."⟩,
  ⟨"variables", "variables - Names and meanings of some shell variables",
    "Common shell variable names and usage.\n\nBASH_VERSION\tVersion information for this Bash.\nCDPATH\tA colon-separated list of directories to search\n\t\tfor directories given as arguments to `cd'.\nGLOBIGNORE\tA colon-separated list of patterns describing filenames to\n\t\tbe ignored by pathname expansion.\nHISTFILE\tThe name of the file where your command history is stored.\nHISTFILESIZE\tThe maximum number of lines this file can contain.\nHISTSIZE\tThe maximum number of history lines that a running\n\t\tshell can access.\nHOME\tThe complete pathname to your login directory.\nHOSTNAME\tThe name of the current host.\nHOSTTYPE\tThe type of CPU this version of Bash is running under.\nIGNOREEOF\tControls the action of the shell on receipt of an EOF\n\t\tcharacter as the sole input.  If set, then the value\n\t\tof it is the number of EOF characters that can be seen\n\t\tin a row on an empty line before the shell will exit\n\t\t(default 10).  When unset, EOF signifies the end of input.\nMACHTYPE\tA string describing the current system Bash is running on.\nMAILCHECK\tHow often, in seconds, Bash checks for new mail.\nMAILPATH\tA colon-separated list of filenames which Bash checks\n\t\tfor new mail.\nOSTYPE\tThe version of Unix this version of Bash is running on.\nPATH\tA colon-separated list of directories to search when\n\t\tlooking for commands.\nPROMPT_COMMAND\tA command to be executed before the printing of each\n\t\tprimary prompt.\nPS1\t\tThe primary prompt string.\nPS2\t\tThe secondary prompt string.\nPWD\t\tThe full pathname of the current directory.\nSHELLOPTS\tA colon-separated list of enabled shell options.\nTERM\tThe name of the current terminal type.\nTIMEFORMAT\tThe output format for timing statistics displayed by the\n\t\t`time' reserved word.\nauto_resume\tNon-null means a command word appearing on a line by\n\t\titself is first looked for in the list of currently\n\t\tstopped jobs.  If found there, that job is foregrounded.\n\t\tA value of `exact' means that the command word must\n\t\texactly match a command in the list of stopped jobs.  A\n\t\tvalue of `substring' means that the command word must\n\t\tmatch a substring of the job.  Any other value means that\n\t\tthe command must be a prefix of a stopped job.\nhistchars\tCharacters controlling history expansion and quick\n\t\tsubstitution.  The first character is the history\n\t\tsubstitution character, usually `!'.  The second is\n\t\tthe `quick substitution' character, usually `^'.  The\n\t\tthird is the `history comment' character, usually `#'.\nHISTIGNORE\tA colon-separated list of patterns used to decide which\n\t\tcommands should be saved on the history list."⟩,
  ⟨"wait", "wait [-fn] [-p var] [id ...]",
    "Wait for job completion and return exit status.\n\nWaits for each process identified by an ID, which may be a process ID or a\njob specification, and reports its termination status.  If ID is not\ngiven, waits for all currently active child processes, and the return\nstatus is zero.  If ID is a job specification, waits for all processes\nin that job's pipeline.\n\nIf the -n option is supplied, waits for a single job from the list of IDs,\nor, if no IDs are supplied, for the next job to complete and returns its\nexit status.\n\nIf the -p option is supplied, the process or job identifier of the job\nfor which the exit status is returned is assigned to the variable VAR\nnamed by the option argument. The variable will be unset initially, before\nany assignment. This is useful only when the -n option is supplied.\n\nIf the -f option is supplied, and job control is enabled, waits for the\nspecified ID to terminate, instead of waiting for it to change status.\n\nExit Status:\nReturns the status of the last ID; fails if ID is invalid or an invalid\noption is given, or if -n is supplied and the shell has no unwaited-for\nchildren."⟩,
  ⟨"while", "while COMMANDS; do COMMANDS-2; done",
    "Execute commands as long as a test succeeds.\n\nExpand and execute COMMANDS-2 as long as the final command in COMMANDS has\nan exit status of zero.\n\nExit Status:\nReturns the status of the last command executed."⟩,
  ⟨"\x7b ... \x7d", "\x7b COMMANDS ; \x7d",
    "Group commands as a unit.\n\nRun a set of commands in a group.  This is one way to redirect an\nentire set of commands.\n\nExit Status:\nReturns the status of the last command executed."⟩
]

def HelpTopic.summary (t : HelpTopic) : String := (t.text.splitOn "\n").headD ""

def HelpTopic.full (t : HelpTopic) : String :=
  t.name ++ ": " ++ t.synopsis ++ "\n" ++ String.join ((t.text.splitOn "\n").map fun l => "    " ++ l ++ "\n")

def isGlobWord (w : String) : Bool :=
  go w.toList false
where
  go : List Char → Bool → Bool
    | [], _ => false
    | c :: rest, opened =>
      if c == '?' || c == '*' then true
      else if c == '[' then go rest true
      else if c == ']' then opened || go rest opened
      else if (c == '+' || c == '@' || c == '!') && rest.head? == some '(' then true
      else if c == '\\' then !rest.isEmpty
      else go rest opened

def helpMatches (word : String) : List HelpTopic :=
  let exact := helpTopics.filter fun t => t.name == word || patternMatch word t.name
  if exact.isEmpty then helpTopics.filter fun t => t.name.startsWith word else exact

def helpCell (mark : Char) (synopsis : String) (room : Nat) : String :=
  if synopsis.length + 1 ≥ room then String.ofList (mark :: synopsis.toList.take (room - 1)) ++ ">"
  else String.singleton mark ++ synopsis

def helpTable (disabled : List String) : String :=
  let mark (t : HelpTopic) : Char := if disabled.contains t.name then '*' else ' '
  let height := (helpTopics.length + 1) / 2
  let left := helpTopics.take height
  let right := helpTopics.drop height
  let rows := left.zipIdx.map fun (t, i) =>
    let first := helpCell (mark t) t.synopsis 38
    match right[i]? with
    | some u => first ++ String.ofList (List.replicate (40 - first.length) ' ') ++ helpCell (mark u) u.synopsis 37 ++ "\n"
    | none => first ++ "\n"
  "GNU bash, version " ++ bashVersion ++ " (x86_64-pc-linux-gnu)\n" ++
  "These shell commands are defined internally.  Type `help' to see this list.\n" ++
  "Type `help name' to find out more about the function `name'.\n" ++
  "Use `info bash' to find out more about the shell in general.\n" ++
  "Use `man -k' or `info' to find out more about commands not in this list.\n\n" ++
  "A star (*) next to a name means that the command is disabled.\n\n" ++ String.join rows

def runHelp (p : Proc) (opts : List BuiltinOption) (words : List String) : Shell (Proc × Flow) := do
  let has (c : Char) := opts.any (·.letter == c)
  match words with
  | [] => do
    emit p 1 (helpTable p.disabled)
    pure ({ p with status := 0 }, .next)
  | first :: _ => do
    if isGlobWord first then
      emit p 1 ((if words.length > 1 then "Shell commands matching keywords `" else "Shell commands matching keyword `") ++
        ", ".intercalate words ++ "'\n\n")
    let found := words.flatMap helpMatches
    emit p 1 (String.join (found.map fun t =>
      if has 'd' then t.name ++ " - " ++ t.summary ++ "\n"
      else if has 's' then t.name ++ ": " ++ t.synopsis ++ "\n"
      else t.full))
    if found.isEmpty then do
      let last := words.getLast?.getD ""
      complain p ("help: no help topics match `" ++ last ++ "'.  Try `help help' or `man -k " ++ last ++
        "' or `info " ++ last ++ "'.")
      pure ({ p with status := 1 }, .next)
    else pure ({ p with status := 0 }, .next)

end TestRig.Shell
