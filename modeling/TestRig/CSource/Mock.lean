import TestRig.CSource.Prototype
import TestRig.Files.Path
import TestRig.Files.Tree
import TestRig.Fault
import TestRig.Text.Case

/-!
Mock modules. For a header the mock has a header of its own, which declares an init, verify and
destroy function for the module and, per mocked function, a call counter and an ignore
function (with a return value for functions that return one); and a source that keeps the
counters in one static record and defines every mocked function to count its calls and fail the
test unless it was told to ignore them.
-/

namespace TestRig.CSource

/-- What a mock is generated from: its module name, the header it stands in for, and the
functions of that header. -/
structure MockSpec where
  name : String
  header : String
  functions : List Prototype

def MockSpec.guard (m : MockSpec) : String := Text.toUpper m.name ++ "_H"

/-- The declarations of one mocked function in the mock header. -/
def mockHeaderEntry (f : Prototype) : String :=
  "\nint " ++ f.name ++ "_CallCount(void);" ++
  (if f.isVoid then "\nvoid " ++ f.name ++ "_Ignore(void);"
   else "\nvoid " ++ f.name ++ "_IgnoreAndReturn(" ++ f.returnType ++ " retval);") ++ "\n"

def MockSpec.headerText (m : MockSpec) : String :=
  "/* AUTOGENERATED FILE. DO NOT EDIT. */\n#ifndef " ++ m.guard ++ "\n#define " ++ m.guard ++
  "\n\n#include \"" ++ Path.base m.header ++ "\"\n\nvoid " ++ m.name ++ "_Init(void);\nvoid " ++
  m.name ++ "_Verify(void);\nvoid " ++ m.name ++ "_Destroy(void);\n" ++
  String.join (m.functions.map mockHeaderEntry) ++ "\n#endif /* " ++ m.guard ++ " */\n"

/-- The fields of the mock record for one function. -/
def mockRecordFields (f : Prototype) : String :=
  "\n  int " ++ f.name ++ "_calls;\n  int " ++ f.name ++ "_ignored;" ++
  (if f.isVoid then "" else "\n  " ++ f.returnType ++ " " ++ f.name ++ "_retval;")

/-- The definitions of one mocked function in the mock source. -/
def mockSourceEntry (f : Prototype) : String :=
  "\nint " ++ f.name ++ "_CallCount(void)\n\x7b\n  return Mock." ++ f.name ++ "_calls;\n\x7d\n" ++
  (if f.isVoid then
    "\nvoid " ++ f.name ++ "_Ignore(void)\n\x7b\n  Mock." ++ f.name ++ "_ignored = 1;\n\x7d"
   else
    "\nvoid " ++ f.name ++ "_IgnoreAndReturn(" ++ f.returnType ++ " retval)\n\x7b\n  Mock." ++
    f.name ++ "_ignored = 1;\n  Mock." ++ f.name ++ "_retval = retval;\n\x7d") ++
  "\n\n" ++ f.returnType ++ " " ++ f.name ++ "(" ++ f.signature ++ ")\n\x7b" ++
  String.join (f.params.map fun p => "\n  (void)" ++ p.name ++ ";") ++
  "\n  Mock." ++ f.name ++ "_calls++;\n  if (!Mock." ++ f.name ++
  "_ignored)\n  \x7b\n    TEST_FAIL_MESSAGE(\"Called more times than expected: " ++ f.name ++
  "\");\n  \x7d" ++
  (if f.isVoid then "" else "\n  return Mock." ++ f.name ++ "_retval;") ++ "\n\x7d\n"

def MockSpec.sourceText (m : MockSpec) : String :=
  "/* AUTOGENERATED FILE. DO NOT EDIT. */\n#include <string.h>\n#include \"unity.h\"\n#include \"" ++
  m.name ++ ".h\"\n\nstatic struct \x7b\n  int placeholder;" ++
  String.join (m.functions.map mockRecordFields) ++
  "\n\x7d Mock;\n\nvoid " ++ m.name ++ "_Init(void)\n\x7b\n  memset(&Mock, 0, sizeof(Mock));\n\x7d\n\nvoid " ++
  m.name ++ "_Verify(void)\n\x7b\n\x7d\n\nvoid " ++ m.name ++
  "_Destroy(void)\n\x7b\n  memset(&Mock, 0, sizeof(Mock));\n\x7d\n" ++
  String.join (m.functions.map mockSourceEntry)

structure MockModule where
  name : String
  header : String
  input : String
  source : String
  outHeader : String
  deriving Repr, Inhabited, BEq

open TestRig.Files in
/-- Writes a generated file, making its directory first. -/
def writeGenerated (fs : Tree) (path text : String) : Outcome Tree :=
  match fs.mkdirAll (Path.dir path) with
  | .error e => .error (.plain ("failed to create directory for '" ++ path ++ "': " ++ e.message))
  | .ok fs => match fs.writeText path text with
    | .error e => .error (.plain ("failed to write '" ++ path ++ "': " ++ e.message))
    | .ok fs => .ok fs

open TestRig.Files in
/-- Reads the input header of a mock and writes its header and source. -/
def MockModule.generate (m : MockModule) (fs : Tree) : Outcome Tree := do
  let src ← match fs.readText m.input with
    | .ok s => pure s
    | .error e => throw (.plain ("failed to read header '" ++ m.input ++ "': " ++ e.message))
  let protos ← match parsePrototypes src with
    | .ok ps => pure ps
    | .error e => throw (.plain ("failed to parse header '" ++ m.input ++ "': " ++ e))
  let spec : MockSpec := ⟨m.name, m.header, protos⟩
  let fs ← writeGenerated fs m.outHeader spec.headerText
  writeGenerated fs m.source spec.sourceText

end TestRig.CSource
