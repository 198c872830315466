import TestRig.Config.Model

/-!
The layout of a build's output: a root directory (the project's build root, under the project
root unless it is absolute) holding one directory per build context, with the objects, mocks
and preprocessed files of each test, the runners, the results, and the object state; the
fingerprint cache sits beside the contexts.
-/

namespace TestRig.Build

open TestRig.Config

structure Layout where
  root : String
  context : String
  deriving Inhabited, Repr

/-- The layout of a model's build context under a project root. -/
def Layout.ofModel (root : String) (m : Model) (context : String) : Layout :=
  let dir := m.project.buildRoot
  { root := if !Path.isAbs dir && root != "" then Path.join [root, dir] else dir, context }

namespace Layout

def contextDir (l : Layout) : String := Path.join [l.root, l.context]

def objectDir (l : Layout) (test : String) : String := Path.join [l.contextDir, "out", test]

def mockDir (l : Layout) (test : String) : String := Path.join [l.contextDir, "mocks", test]

def preprocessDir (l : Layout) (test : String) : String := Path.join [l.contextDir, "preprocess", test]

def runnerDir (l : Layout) : String := Path.join [l.contextDir, "runners"]

def resultsDir (l : Layout) : String := Path.join [l.contextDir, "results"]

def cacheDir (l : Layout) : String := Path.join [l.root, "cache"]

def objectState (l : Layout) : String := Path.join [l.contextDir, "objects.cbor"]

end Layout

end TestRig.Build
