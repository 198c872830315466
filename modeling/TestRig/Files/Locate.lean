import TestRig.Fault
import TestRig.Files.Path

/-!
Locating a file that a test names (`#include "drivers/uart.h"`) among the project's files. The
candidates are the known files with the same base name whose path is the name or ends with it
after a slash. With one candidate that is the file; with several, the one whose directory
shares the longest leading run of directory names with the file that names it wins.
-/

namespace TestRig.Files

/-- What to do when a name has no single match: fail, or go without the file. -/
inductive Policy where
  | error
  | ignore
  deriving DecidableEq, Repr, Inhabited

/-- The known files by base name, each file once, in the order given. -/
structure FileIndex where
  byBase : List (String × List String) := []
  deriving Inhabited

/-- The index of the files of some lists; a file listed twice counts once. -/
def FileIndex.ofLists (lists : List (List String)) : FileIndex :=
  let files := lists.flatten.foldl (fun acc p => if acc.contains p then acc else acc ++ [p]) []
  ⟨files.foldl (fun acc p =>
    let b := Path.base p
    match acc.lookup b with
    | some ps => acc.map fun (k, v) => if k == b then (k, ps ++ [p]) else (k, v)
    | none => acc ++ [(b, [p])]) []⟩

/-- The directory names of a path's directory, outermost first. -/
def segments (dir : String) : List String :=
  let d := Path.clean dir
  if d == "." || d == "" then []
  else
    let trimmed := (d.toList.dropWhile (· == '/')).reverse.dropWhile (· == '/') |>.reverse
    (String.ofList trimmed).splitOn "/"

/-- The length of the common leading run of two lists. -/
def commonPrefixLength : List String → List String → Nat
  | a :: as, b :: bs => if a == b then commonPrefixLength as bs + 1 else 0
  | _, _ => 0

/-- The best candidate by shared directory names with the reference, and whether another
reached the best score too. -/
def bestCandidate (refDir : List String) (cands : List String) : String × Bool :=
  let (best, _, tie) := cands.foldl (fun (best, score, tie) cand =>
    let s : Int := commonPrefixLength (segments (Path.dir cand)) refDir
    if s > score then (cand, s, false)
    else if s == score then (best, score, true)
    else (best, score, tie)) ("", (-1 : Int), false)
  (best, tie)

/-- The known files a name may stand for: those with its base name whose path is the name or
ends with it after a slash. -/
def FileIndex.candidates (x : FileIndex) (name : String) : List String :=
  let want := Path.clean name
  ((x.byBase.lookup (Path.base name)).getD []).filter fun c =>
    c == want || c.endsWith ("/" ++ want)

/-- The name has several candidates and two of them tie for the best. -/
def FileIndex.isAmbiguous (x : FileIndex) (name reference : String) : Bool :=
  let cands := x.candidates name
  cands.length > 1 && (bestCandidate (segments (Path.dir reference)) cands).2

/-- The file a test's reference names: the path, `""` when an optional reference has no single
match, or a build graph failure. -/
def FileIndex.locate (x : FileIndex) (owner name reference : String) (policy : Policy) :
    Except Fault String :=
  let cands := x.candidates name
  match cands with
  | [] => if policy == .ignore then .ok "" else .error (.graph owner name "file not found")
  | [c] => .ok c
  | _ =>
    let (best, tie) := bestCandidate (segments (Path.dir reference)) cands
    if !tie then .ok best
    else if policy == .ignore then .ok ""
    else .error (.graph owner name ("ambiguous, candidates: " ++ ", ".intercalate cands))

end TestRig.Files
