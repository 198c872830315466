import TestRig.Shell.Programs
import TestRig.Shell.Escape

/-!
Texts as lines, and `rev`, which writes each line of its inputs reversed. A line ends at a line
break, and text after the last break is a line too; a character is a byte.
-/

namespace TestRig.Shell

open TestRig.Files TestRig.Text TestRig.Number

def textLines (s : String) : List String :=
  if s.isEmpty then []
  else
    let parts := s.splitOn "\n"
    if s.endsWith "\n" then parts.dropLast else parts

def unlines (ls : List String) : String := String.join (ls.map (· ++ "\n"))

/-! ### `rev` -/

def rev (fs : Tree) (args : List String) (input : String) : Effect :=
  eachInput "rev" fs (operands args) input { files := fs } fun e _ t =>
    let ls := textLines t
    let text := unlines (ls.map fun l => String.ofList l.toList.reverse)
    e.out (if !t.endsWith "\n" && !t.isEmpty then String.ofList text.toList.dropLast else text)

end TestRig.Shell
