import TestRig.Text.Chars

/-!
Slash-separated paths: the lexical operations on file names that the build uses, with no file
system behind them. `clean` gives the shortest equivalent spelling (no empty, `.` or inner `..`
elements), and `join`, `dir`, `base` and `ext` are defined through it.
-/

namespace TestRig.Path

open TestRig.Text

def isAbs (p : String) : Bool := startsWith p.toList ['/']

/-- Resolves the elements of a path from the left: `.` and empty elements vanish, `..` removes
the element before it, and at the root a leading `..` vanishes too. -/
def resolveElems (rooted : Bool) : List (List Char) → List (List Char) → List (List Char)
  | [], acc => acc.reverse
  | e :: r, acc =>
    if e.isEmpty || e == ['.'] then resolveElems rooted r acc
    else if e == ['.', '.'] then
      match acc with
      | x :: rest => if x == ['.', '.'] then resolveElems rooted r (e :: acc)
                     else resolveElems rooted r rest
      | [] => if rooted then resolveElems rooted r [] else resolveElems rooted r [e]
    else resolveElems rooted r (e :: acc)

/-- The shortest path naming the same file by purely lexical processing; the empty path is
`.`. -/
def cleanChars (p : List Char) : List Char :=
  let rooted := p.head? == some '/'
  let body := joinWith ['/'] (resolveElems rooted (splitOn p ['/']) [])
  if rooted then '/' :: body
  else if body.isEmpty then ['.'] else body

/-- The shortest path naming the same file by purely lexical processing. -/
def clean (p : String) : String := String.ofList (cleanChars p.toList)

/-- Joins the non-empty elements with slashes and cleans the result; no element gives `""`. -/
def join (parts : List String) : String :=
  match parts.filter (· ≠ "") with
  | [] => ""
  | ps => clean ("/".intercalate ps)

/-- The last element, after trailing slashes are dropped; `.` for the empty path and `/` for
the root. -/
def base (p : String) : String :=
  if p = "" then "."
  else
    let cs := (p.toList.reverse.dropWhile (· == '/')).reverse
    if cs.isEmpty then "/"
    else String.ofList (cs.reverse.takeWhile (· != '/')).reverse

/-- The suffix of the last element from its last dot on, or `""` when it has no dot. -/
def ext (p : String) : String :=
  let last := (p.toList.reverse.takeWhile (· != '/'))
  match last.findIdx? (· == '.') with
  | some i => String.ofList (last.take (i + 1)).reverse
  | none => ""

/-- Everything before the last element, cleaned. -/
def dir (p : String) : String :=
  let before := (p.toList.reverse.dropWhile (· != '/')).reverse
  String.ofList (cleanChars before)

def stem (p : String) : String :=
  let b := base p
  let e := ext b
  String.ofList (b.toList.take (b.length - e.length))

end TestRig.Path
