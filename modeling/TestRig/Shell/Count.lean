import TestRig.Shell.Programs

/-!
`wc`: the line breaks, words, bytes and widest line of each input, as GNU `wc` counts them in
the C locale.

`countText` is one left fold over the bytes (`CountState.step`). A word is a run of printable
bytes between blanks; bytes that are neither printable nor blank belong to no word and part
none.
-/

namespace TestRig.Shell

open TestRig.Files

/-- The counts of a text: line breaks, words, bytes, and the width of its widest line. -/
structure TextCounts where
  lines : Nat := 0
  words : Nat := 0
  bytes : Nat := 0
  widest : Nat := 0
  deriving Inhabited

def TextCounts.add (a b : TextCounts) : TextCounts :=
  { lines := a.lines + b.lines, words := a.words + b.words, bytes := a.bytes + b.bytes,
    widest := max a.widest b.widest }

/-- Where counting is in a text: the counts so far, whether a word is open, and the width of
the line so far. -/
structure CountState where
  counts : TextCounts := {}
  inWord : Bool := false
  column : Nat := 0
  deriving Inhabited

def CountState.endWord (s : CountState) : CountState :=
  { s with counts := { s.counts with words := s.counts.words + (if s.inWord then 1 else 0) }, inWord := false }

def CountState.endLine (s : CountState) : CountState :=
  { s with counts := { s.counts with widest := max s.counts.widest s.column }, column := 0 }

def CountState.step (s : CountState) (c : Char) : CountState :=
  let s := { s with counts := { s.counts with bytes := s.counts.bytes + 1 } }
  if c == '\n' then { s with counts := { s.counts with lines := s.counts.lines + 1 } }.endLine.endWord
  else if c == '\r' || c == '\x0C' then s.endLine.endWord
  else if c == '\t' then { s with column := s.column + 8 - s.column % 8 }.endWord
  else if c == ' ' then { s with column := s.column + 1 }.endWord
  else if c == '\x0B' then s.endWord
  else if 32 ≤ c.toNat && c.toNat < 127 then { s with column := s.column + 1, inWord := true }
  else s

def countText (t : String) : TextCounts :=
  (t.toList.foldl CountState.step {}).endLine.endWord.counts

/-- Which counts `wc` writes, in the order it writes them. -/
structure CountChoice where
  lines : Bool := false
  words : Bool := false
  chars : Bool := false
  bytes : Bool := false
  widest : Bool := false
  deriving Inhabited

def CountChoice.orDefault (c : CountChoice) : CountChoice :=
  if c.lines || c.words || c.chars || c.bytes || c.widest then c
  else { lines := true, words := true, bytes := true }

def CountChoice.pick (c : CountChoice) (t : TextCounts) : List Nat :=
  [(c.lines, t.lines), (c.words, t.words), (c.chars, t.bytes), (c.bytes, t.bytes), (c.widest, t.widest)].filterMap
    fun (on, n) => if on then some n else none

inductive TotalMode where
  | auto
  | always
  | only
  | never
  deriving BEq, Inhabited

def countSpecs : List OptionSpec :=
  [{ name := "c", short := some 'c', long := some "bytes" },
   { name := "m", short := some 'm', long := some "chars" },
   { name := "l", short := some 'l', long := some "lines" },
   { name := "L", short := some 'L', long := some "max-line-length" },
   { name := "w", short := some 'w', long := some "words" },
   { name := "files0-from", long := some "files0-from", value := .required },
   { name := "total", long := some "total", value := .required }]

def countLine (width : Nat) (numbers : List Nat) (name : Option String) : String :=
  let pad (n : Nat) : String :=
    let s := toString n
    String.ofList (List.replicate (width - s.length) ' ') ++ s
  " ".intercalate (numbers.map pad) ++ (name.map (" " ++ ·)).getD "" ++ "\n"

/-- What `wc` finds for an input: its counts, its absence, or a directory (counted as empty). -/
inductive CountedInput where
  | text (t : String)
  | missing (errno : Errno)
  | directory
  deriving Inhabited

def countSettings (options : List FoundOption) : Except String (CountChoice × TotalMode × Option String) :=
  options.foldlM (fun ((choice : CountChoice), (mode : TotalMode), (from0 : Option String)) o =>
    match o.name with
    | "c" => Except.ok ({ choice with bytes := true }, mode, from0)
    | "m" => Except.ok ({ choice with chars := true }, mode, from0)
    | "l" => Except.ok ({ choice with lines := true }, mode, from0)
    | "L" => Except.ok ({ choice with widest := true }, mode, from0)
    | "w" => Except.ok ({ choice with words := true }, mode, from0)
    | "total" => (pickChoice "wc" "total" [(["auto"], TotalMode.auto), (["always"], .always),
        (["only"], .only), (["never"], .never)] (o.value.getD "")).map fun m => (choice, m, from0)
    | "files0-from" => Except.ok (choice, mode, o.value)
    | _ => Except.ok (choice, mode, from0)) ({}, TotalMode.auto, none)

def wc (fs : Tree) (args : List String) (input : String) : Effect :=
  let plain : Effect := { files := fs }
  let (w, fault) := scanCommandWords countSpecs args
  let settings := countSettings w.options
  match settings, fault with
  | .error m, _ => (plain.err m).fail 1
  | .ok _, some f => (plain.err (usageFault "wc" f)).fail 1
  | .ok (choice, mode, from0), none =>
    let choice := choice.orDefault
    let listed : Except String (List String) := match from0 with
      | none => .ok w.operands
      | some f =>
        if !w.operands.isEmpty then
          .error ("wc: extra operand '" ++ w.operands.headD "" ++
            "'\nfile operands cannot be combined with --files0-from\nTry 'wc --help' for more information.\n")
        else
          let t : Except IoError String := if f == "-" then .ok input else readBytes fs f
          match t with
          | .ok t => .ok ((t.splitOn "\x00").filter (!·.isEmpty))
          | .error err => .error ("wc: cannot open '" ++ f ++ "' for reading: " ++ errnoText err.errno ++ "\n")
    match listed with
    | .error m => (plain.err m).fail 1
    | .ok names =>
      let named := !names.isEmpty || from0.isSome
      let entries : List (Option String × CountedInput) :=
        if named then
          (names.foldl (fun ((acc : List (Option String × CountedInput)), (rest : String)) f =>
            if f == "-" then ((some f, .text rest) :: acc, "")
            else match readBytes fs f with
              | .ok t => ((some f, .text t) :: acc, rest)
              | .error err =>
                ((some f, if err.errno == Errno.isDir then CountedInput.directory else .missing err.errno) :: acc, rest))
            ([], input)).1.reverse
        else [(none, .text input)]
      let single := (choice.pick {}).length == 1
      let width :=
        if mode == .only then 1
        else if entries.length == 1 && single then 1
        else
          let (size, least) := entries.foldl (fun (size, least) (name, found) =>
            match name, found with
            | some "-", _ | none, _ => (size, 7)
            | _, .text t => (size + t.length, least)
            | _, .directory => (size, 7)
            | _, .missing _ => (size, least)) (0, 1)
          max least (toString size).length
      let (e, total) := entries.foldl (fun ((e : Effect), total) (name, found) =>
        let report (e : Effect) (c : TextCounts) : Effect :=
          if mode == .only then e else e.out (countLine width (choice.pick c) name)
        match found with
        | .text t =>
          let c := countText t
          (report e c, total.add c)
        | .directory => (report ((e.err ("wc: " ++ name.getD "" ++ ": Is a directory\n")).fail 1) {}, total)
        | .missing errno => ((e.err ("wc: " ++ name.getD "" ++ ": " ++ errnoText errno ++ "\n")).fail 1, total))
        (plain, ({} : TextCounts))
      match mode with
      | .never => e
      | .only => e.out (countLine width (choice.pick total) none)
      | .always => e.out (countLine width (choice.pick total) (some "total"))
      | .auto => if names.length > 1 then e.out (countLine width (choice.pick total) (some "total")) else e

end TestRig.Shell
