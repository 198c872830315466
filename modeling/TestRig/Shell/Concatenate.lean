import TestRig.Shell.Programs

/-!
`cat`: the inputs one after another, as GNU `cat` writes them, with its ways of showing a text:
numbered lines (`-n`, or only the non-empty ones under `-b`), runs of empty lines squeezed to
one (`-s`), `$` at each line end (`-E`), tabs as `^I` (`-T`) and other unprintable bytes in
caret and `M-` notation (`-v`).

The place in a line carries over from one input to the next: a numbered line may start in one
input and end in the next.
-/

namespace TestRig.Shell

open TestRig.Files

structure CatStyle where
  number : Bool := false
  nonblank : Bool := false
  squeeze : Bool := false
  ends : Bool := false
  tabs : Bool := false
  visible : Bool := false
  deriving Inhabited

def CatStyle.copies (s : CatStyle) : Bool :=
  !(s.number || s.squeeze || s.ends || s.tabs || s.visible)

structure CatPlace where
  lineNumber : Nat := 0
  breaks : Option Nat := some 0
  deriving Inhabited

def lineNumberText (n : Nat) : String :=
  let s := toString n
  String.ofList (List.replicate (6 - s.length) ' ') ++ s ++ "\t"

def visibleByte (tabs : Bool) (c : Char) : String :=
  let n := c.toNat
  let low (k : Nat) : String :=
    if k < 32 then "^" ++ String.singleton (Char.ofNat (k + 64))
    else if k < 127 then String.singleton (Char.ofNat k)
    else "^?"
  if c == '\t' && !tabs then "\t"
  else if n ≥ 128 then "M-" ++ low (n - 128)
  else low n

def catBytes (s : CatStyle) : List Char → CatPlace → List String → CatPlace × List String
  | [], place, out => (place, out)
  | c :: rest, place, out =>
    if c == '\n' then
      let breaks := place.breaks.map (· + 1) |>.getD 0
      if breaks ≥ 2 && s.squeeze then catBytes s rest { place with breaks := some 2 } out
      else
        let numbered := breaks > 0 && s.number && !s.nonblank
        let lineNumber := if numbered then place.lineNumber + 1 else place.lineNumber
        let text := (if numbered then lineNumberText lineNumber else "") ++ (if s.ends then "$\n" else "\n")
        catBytes s rest { lineNumber, breaks := some (min breaks 2) } (text :: out)
    else
      let numbered := place.breaks.isSome && s.number
      let lineNumber := if numbered then place.lineNumber + 1 else place.lineNumber
      let shown :=
        if s.visible then visibleByte s.tabs c
        else if c == '\t' && s.tabs then "^I"
        else if c == '\r' && s.ends && rest.head? == some '\n' then "^M"
        else String.singleton c
      catBytes s rest { lineNumber, breaks := none }
        (((if numbered then lineNumberText lineNumber else "") ++ shown) :: out)

def catText (s : CatStyle) (place : CatPlace) (t : String) : CatPlace × String :=
  if s.copies then (place, t)
  else
    let (place, out) := catBytes s t.toList place []
    (place, String.join out.reverse)

def catSpecs : List OptionSpec :=
  [{ name := "A", short := some 'A', long := some "show-all" },
   { name := "b", short := some 'b', long := some "number-nonblank" },
   { name := "e", short := some 'e' },
   { name := "E", short := some 'E', long := some "show-ends" },
   { name := "n", short := some 'n', long := some "number" },
   { name := "s", short := some 's', long := some "squeeze-blank" },
   { name := "t", short := some 't' },
   { name := "T", short := some 'T', long := some "show-tabs" },
   { name := "u", short := some 'u' },
   { name := "v", short := some 'v', long := some "show-nonprinting" }]

def catStyle (options : List FoundOption) : CatStyle :=
  options.foldl (fun s o =>
    match o.name with
    | "A" => { s with visible := true, ends := true, tabs := true }
    | "b" => { s with number := true, nonblank := true }
    | "e" => { s with visible := true, ends := true }
    | "E" => { s with ends := true }
    | "n" => { s with number := true }
    | "s" => { s with squeeze := true }
    | "t" => { s with visible := true, tabs := true }
    | "T" => { s with tabs := true }
    | "v" => { s with visible := true }
    | _ => s) {}

def cat (fs : Tree) (args : List String) (input : String) : Effect :=
  let plain : Effect := { files := fs }
  match readCommandWords catSpecs args with
  | .error f => (plain.err (usageFault "cat" f)).fail 1
  | .ok w =>
    let style := catStyle w.options
    let names := if w.operands.isEmpty then ["-"] else w.operands
    (names.foldl (fun ((e : Effect), place, (rest : String)) f =>
      let text := if f == "-" then .ok rest else readBytes e.files f
      let rest := if f == "-" then "" else rest
      match text with
      | .ok t =>
        let (place, shown) := catText style place t
        (if shown.isEmpty then e else e.out shown, place, rest)
      | .error err => ((e.err ("cat: " ++ f ++ ": " ++ errnoText err.errno ++ "\n")).fail 1, place, rest))
      (plain, ({} : CatPlace), input)).1

end TestRig.Shell
