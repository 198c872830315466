import TestRig.Build.Hooks
import TestRig.Results.Report

/-!
Plugins that come with the build. The console report logs after each test whether it passed
and prints the summary report after the build. A journal hook writes every event it sees into
the session's journal, and fails at the events it is told to, after writing them.
-/

namespace TestRig.Build

open TestRig.Results

def reportPluginName : String := "stdout_report"

/-- The console report: after each test a log record saying whether it passed, after the
build the summary report. -/
def reportPlugin : Plugin :=
  { name := reportPluginName,
    hooks := [{ name := reportPluginName,
                postTest := some fun _ r =>
                  if r.passed then BuildM.logAt .info "Test passed." else BuildM.logAt .warn "Test failed.",
                postBuild := some fun s => BuildM.print s.report }] }

/-- Where a journal hook fails: before the build, before or after the test of a key, or after
the build, with the message to fail with. -/
structure JournalFailures where
  preBuild : Option String := none
  preTest : List (String × String) := []
  postTest : List (String × String) := []
  postBuild : Option String := none
  deriving Inhabited

def failWith : Option String → BuildM Unit
  | none => pure ()
  | some msg => throw (.plain msg)

/-- A hook that writes each event into the journal, `pre_build:<keys>`, `pre_test:<key>`,
`post_test:<key>:<passed>` and `post_build:<results>:<errors>`, then fails where told. -/
def journalHook (name : String) (f : JournalFailures) : Hook where
  name := name
  preBuild := some fun keys => do
    BuildM.noteJournal ("pre_build:" ++ ",".intercalate keys)
    failWith f.preBuild
  preTest := some fun t => do
    BuildM.noteJournal ("pre_test:" ++ t.key)
    failWith (f.preTest.lookup t.key)
  postTest := some fun t r => do
    BuildM.noteJournal ("post_test:" ++ t.key ++ ":" ++ (if r.passed then "true" else "false"))
    failWith (f.postTest.lookup t.key)
  postBuild := some fun s => do
    BuildM.noteJournal ("post_build:" ++ toString s.results.length ++ ":" ++ toString s.errors.length)
    failWith f.postBuild

end TestRig.Build
